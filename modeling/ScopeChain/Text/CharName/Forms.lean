/-
Names of forms of letters for display.

A row has the names of characters one behind the other.  In front of each stands how many
words it shares with the name before it.
-/
namespace ScopeChain
namespace CharName

def forms : List (Nat × String) := [
  (0xFB00, "0LATIN SMALL LIGATURE FF|3FI|3FL|3FFI|3FFL|3LONG S T|3ST"),
  (0xFB13, "0ARMENIAN SMALL LIGATURE MEN NOW|4ECH|4INI|3VEW NOW|3MEN XEH"),
  (0xFB1D, "0HEBREW LETTER YOD WITH HIRIQ|1POINT JUDEO-SPANISH VARIKA|1LIGATURE YIDDISH YOD YOD PATAH|1LETTER ALTERNATIVE AYIN|2WIDE ALEF|3DALET|3HE|3KAF|3LAMED"),
  (0xFB26, "0HEBREW LETTER WIDE FINAL MEM|3RESH|3TAV|2ALTERNATIVE PLUS SIGN|2SHIN WITH SHIN DOT|4SIN DOT|4DAGESH AND SHIN DOT|6SIN DOT|2ALEF WITH PATAH|4QAMATS"),
  (0xFB30, "0HEBREW LETTER ALEF WITH MAPIQ|2BET WITH DAGESH|2GIMEL WITH DAGESH|2DALET WITH DAGESH|2HE WITH MAPIQ|2VAV WITH DAGESH|2ZAYIN WITH DAGESH"),
  (0xFB38, "0HEBREW LETTER TET WITH DAGESH|2YOD WITH DAGESH|2FINAL KAF WITH DAGESH|2KAF WITH DAGESH|2LAMED WITH DAGESH"),
  (0xFB3E, "0HEBREW LETTER MEM WITH DAGESH"),
  (0xFB40, "0HEBREW LETTER NUN WITH DAGESH|2SAMEKH WITH DAGESH"),
  (0xFB43, "0HEBREW LETTER FINAL PE WITH DAGESH|2PE WITH DAGESH"),
  (0xFB46, "0HEBREW LETTER TSADI WITH DAGESH|2QOF WITH DAGESH|2RESH WITH DAGESH|2SHIN WITH DAGESH|2TAV WITH DAGESH|2VAV WITH HOLAM|2BET WITH RAFE|2KAF WITH RAFE"),
  (0xFB4E, "0HEBREW LETTER PE WITH RAFE|1LIGATURE ALEF LAMED|0ARABIC LETTER ALEF WASLA ISOLATED FORM|4FINAL FORM|2BEEH ISOLATED FORM|3FINAL FORM|3INITIAL FORM"),
  (0xFB55, "0ARABIC LETTER BEEH MEDIAL FORM|2PEH ISOLATED FORM|3FINAL FORM|3INITIAL FORM|3MEDIAL FORM|2BEHEH ISOLATED FORM|3FINAL FORM|3INITIAL FORM|3MEDIAL FORM"),
  (0xFB5E, "0ARABIC LETTER TTEHEH ISOLATED FORM|3FINAL FORM|3INITIAL FORM|3MEDIAL FORM|2TEHEH ISOLATED FORM|3FINAL FORM|3INITIAL FORM|3MEDIAL FORM"),
  (0xFB66, "0ARABIC LETTER TTEH ISOLATED FORM|3FINAL FORM|3INITIAL FORM|3MEDIAL FORM|2VEH ISOLATED FORM|3FINAL FORM|3INITIAL FORM|3MEDIAL FORM"),
  (0xFB6E, "0ARABIC LETTER PEHEH ISOLATED FORM|3FINAL FORM|3INITIAL FORM|3MEDIAL FORM|2DYEH ISOLATED FORM|3FINAL FORM|3INITIAL FORM|3MEDIAL FORM"),
  (0xFB76, "0ARABIC LETTER NYEH ISOLATED FORM|3FINAL FORM|3INITIAL FORM|3MEDIAL FORM|2TCHEH ISOLATED FORM|3FINAL FORM|3INITIAL FORM|3MEDIAL FORM"),
  (0xFB7E, "0ARABIC LETTER TCHEHEH ISOLATED FORM|3FINAL FORM|3INITIAL FORM|3MEDIAL FORM|2DDAHAL ISOLATED FORM|3FINAL FORM|2DAHAL ISOLATED FORM|3FINAL FORM"),
  (0xFB86, "0ARABIC LETTER DUL ISOLATED FORM|3FINAL FORM|2DDAL ISOLATED FORM|3FINAL FORM|2JEH ISOLATED FORM|3FINAL FORM|2RREH ISOLATED FORM|3FINAL FORM"),
  (0xFB8E, "0ARABIC LETTER KEHEH ISOLATED FORM|3FINAL FORM|3INITIAL FORM|3MEDIAL FORM|2GAF ISOLATED FORM|3FINAL FORM|3INITIAL FORM|3MEDIAL FORM"),
  (0xFB96, "0ARABIC LETTER GUEH ISOLATED FORM|3FINAL FORM|3INITIAL FORM|3MEDIAL FORM|2NGOEH ISOLATED FORM|3FINAL FORM|3INITIAL FORM|3MEDIAL FORM"),
  (0xFB9E, "0ARABIC LETTER NOON GHUNNA ISOLATED FORM|4FINAL FORM|2RNOON ISOLATED FORM|3FINAL FORM|3INITIAL FORM|3MEDIAL FORM|2HEH WITH YEH ABOVE ISOLATED FORM"),
  (0xFBA5, "0ARABIC LETTER HEH WITH YEH ABOVE FINAL FORM|3GOAL ISOLATED FORM|4FINAL FORM|4INITIAL FORM|4MEDIAL FORM|3DOACHASHMEE ISOLATED FORM|4FINAL FORM"),
  (0xFBAC, "0ARABIC LETTER HEH DOACHASHMEE INITIAL FORM|4MEDIAL FORM|2YEH BARREE ISOLATED FORM|4FINAL FORM|4WITH HAMZA ABOVE ISOLATED FORM|7FINAL FORM"),
  (0xFBB2, "0ARABIC SYMBOL DOT ABOVE|3BELOW|2TWO DOTS ABOVE|4BELOW|2THREE DOTS ABOVE|4BELOW|4POINTING DOWNWARDS ABOVE|6BELOW|2FOUR DOTS ABOVE|4BELOW"),
  (0xFBBC, "0ARABIC SYMBOL DOUBLE VERTICAL BAR BELOW|2TWO DOTS VERTICALLY ABOVE|5BELOW|2RING|2SMALL TAH ABOVE|4BELOW|2WASLA ABOVE"),
  (0xFBD3, "0ARABIC LETTER NG ISOLATED FORM|3FINAL FORM|3INITIAL FORM|3MEDIAL FORM|2U ISOLATED FORM|3FINAL FORM|2OE ISOLATED FORM|3FINAL FORM|2YU ISOLATED FORM"),
  (0xFBDC, "0ARABIC LETTER YU FINAL FORM|2U WITH HAMZA ABOVE ISOLATED FORM|2VE ISOLATED FORM|3FINAL FORM|2KIRGHIZ OE ISOLATED FORM|4FINAL FORM|3YU ISOLATED FORM"),
  (0xFBE3, "0ARABIC LETTER KIRGHIZ YU FINAL FORM|2E ISOLATED FORM|3FINAL FORM|3INITIAL FORM|3MEDIAL FORM|2UIGHUR KAZAKH KIRGHIZ ALEF MAKSURA INITIAL FORM"),
  (0xFBE9, "0ARABIC LETTER UIGHUR KAZAKH KIRGHIZ ALEF MAKSURA MEDIAL FORM|1LIGATURE YEH WITH HAMZA ABOVE WITH ALEF ISOLATED FORM|8FINAL FORM|7AE ISOLATED FORM"),
  (0xFBED, "0ARABIC LIGATURE YEH WITH HAMZA ABOVE WITH AE FINAL FORM|7WAW ISOLATED FORM|8FINAL FORM|7U ISOLATED FORM|8FINAL FORM|7OE ISOLATED FORM|8FINAL FORM"),
  (0xFBF4, "0ARABIC LIGATURE YEH WITH HAMZA ABOVE WITH YU ISOLATED FORM|8FINAL FORM|7E ISOLATED FORM|8FINAL FORM|8INITIAL FORM"),
  (0xFBF9, "0ARABIC LIGATURE UIGHUR KIRGHIZ YEH WITH HAMZA ABOVE WITH ALEF MAKSURA ISOLATED FORM|9ALEF MAKSURA FINAL FORM|9ALEF MAKSURA INITIAL FORM"),
  (0xFBFC, "0ARABIC LETTER FARSI YEH ISOLATED FORM|4FINAL FORM|4INITIAL FORM|4MEDIAL FORM|1LIGATURE YEH WITH HAMZA ABOVE WITH JEEM ISOLATED FORM"),
  (0xFC01, "0ARABIC LIGATURE YEH WITH HAMZA ABOVE WITH HAH ISOLATED FORM|7MEEM ISOLATED FORM|7ALEF MAKSURA ISOLATED FORM|7YEH ISOLATED FORM"),
  (0xFC05, "0ARABIC LIGATURE BEH WITH JEEM ISOLATED FORM|4HAH ISOLATED FORM|4KHAH ISOLATED FORM|4MEEM ISOLATED FORM|4ALEF MAKSURA ISOLATED FORM|4YEH ISOLATED FORM"),
  (0xFC0B, "0ARABIC LIGATURE TEH WITH JEEM ISOLATED FORM|4HAH ISOLATED FORM|4KHAH ISOLATED FORM|4MEEM ISOLATED FORM|4ALEF MAKSURA ISOLATED FORM|4YEH ISOLATED FORM"),
  (0xFC11, "0ARABIC LIGATURE THEH WITH JEEM ISOLATED FORM|4MEEM ISOLATED FORM|4ALEF MAKSURA ISOLATED FORM|4YEH ISOLATED FORM|2JEEM WITH HAH ISOLATED FORM"),
  (0xFC16, "0ARABIC LIGATURE JEEM WITH MEEM ISOLATED FORM|2HAH WITH JEEM ISOLATED FORM|4MEEM ISOLATED FORM|2KHAH WITH JEEM ISOLATED FORM|4HAH ISOLATED FORM"),
  (0xFC1B, "0ARABIC LIGATURE KHAH WITH MEEM ISOLATED FORM|2SEEN WITH JEEM ISOLATED FORM|4HAH ISOLATED FORM|4KHAH ISOLATED FORM|4MEEM ISOLATED FORM"),
  (0xFC20, "0ARABIC LIGATURE SAD WITH HAH ISOLATED FORM|4MEEM ISOLATED FORM|2DAD WITH JEEM ISOLATED FORM|4HAH ISOLATED FORM|4KHAH ISOLATED FORM"),
  (0xFC25, "0ARABIC LIGATURE DAD WITH MEEM ISOLATED FORM|2TAH WITH HAH ISOLATED FORM|4MEEM ISOLATED FORM|2ZAH WITH MEEM ISOLATED FORM|2AIN WITH JEEM ISOLATED FORM"),
  (0xFC2A, "0ARABIC LIGATURE AIN WITH MEEM ISOLATED FORM|2GHAIN WITH JEEM ISOLATED FORM|4MEEM ISOLATED FORM|2FEH WITH JEEM ISOLATED FORM|4HAH ISOLATED FORM"),
  (0xFC2F, "0ARABIC LIGATURE FEH WITH KHAH ISOLATED FORM|4MEEM ISOLATED FORM|4ALEF MAKSURA ISOLATED FORM|4YEH ISOLATED FORM|2QAF WITH HAH ISOLATED FORM"),
  (0xFC34, "0ARABIC LIGATURE QAF WITH MEEM ISOLATED FORM|4ALEF MAKSURA ISOLATED FORM|4YEH ISOLATED FORM|2KAF WITH ALEF ISOLATED FORM|4JEEM ISOLATED FORM"),
  (0xFC39, "0ARABIC LIGATURE KAF WITH HAH ISOLATED FORM|4KHAH ISOLATED FORM|4LAM ISOLATED FORM|4MEEM ISOLATED FORM|4ALEF MAKSURA ISOLATED FORM|4YEH ISOLATED FORM"),
  (0xFC3F, "0ARABIC LIGATURE LAM WITH JEEM ISOLATED FORM|4HAH ISOLATED FORM|4KHAH ISOLATED FORM|4MEEM ISOLATED FORM|4ALEF MAKSURA ISOLATED FORM|4YEH ISOLATED FORM"),
  (0xFC45, "0ARABIC LIGATURE MEEM WITH JEEM ISOLATED FORM|4HAH ISOLATED FORM|4KHAH ISOLATED FORM|4MEEM ISOLATED FORM|4ALEF MAKSURA ISOLATED FORM"),
  (0xFC4A, "0ARABIC LIGATURE MEEM WITH YEH ISOLATED FORM|2NOON WITH JEEM ISOLATED FORM|4HAH ISOLATED FORM|4KHAH ISOLATED FORM|4MEEM ISOLATED FORM"),
  (0xFC4F, "0ARABIC LIGATURE NOON WITH ALEF MAKSURA ISOLATED FORM|4YEH ISOLATED FORM|2HEH WITH JEEM ISOLATED FORM|4MEEM ISOLATED FORM|4ALEF MAKSURA ISOLATED FORM"),
  (0xFC54, "0ARABIC LIGATURE HEH WITH YEH ISOLATED FORM|2YEH WITH JEEM ISOLATED FORM|4HAH ISOLATED FORM|4KHAH ISOLATED FORM|4MEEM ISOLATED FORM"),
  (0xFC59, "0ARABIC LIGATURE YEH WITH ALEF MAKSURA ISOLATED FORM|4YEH ISOLATED FORM|2THAL WITH SUPERSCRIPT ALEF ISOLATED FORM"),
  (0xFC5C, "0ARABIC LIGATURE REH WITH SUPERSCRIPT ALEF ISOLATED FORM|2ALEF MAKSURA WITH SUPERSCRIPT ALEF ISOLATED FORM|2SHADDA WITH DAMMATAN ISOLATED FORM"),
  (0xFC5F, "0ARABIC LIGATURE SHADDA WITH KASRATAN ISOLATED FORM|4FATHA ISOLATED FORM|4DAMMA ISOLATED FORM|4KASRA ISOLATED FORM|4SUPERSCRIPT ALEF ISOLATED FORM"),
  (0xFC64, "0ARABIC LIGATURE YEH WITH HAMZA ABOVE WITH REH FINAL FORM|7ZAIN FINAL FORM|7MEEM FINAL FORM|7NOON FINAL FORM|7ALEF MAKSURA FINAL FORM|7YEH FINAL FORM"),
  (0xFC6A, "0ARABIC LIGATURE BEH WITH REH FINAL FORM|4ZAIN FINAL FORM|4MEEM FINAL FORM|4NOON FINAL FORM|4ALEF MAKSURA FINAL FORM|4YEH FINAL FORM"),
  (0xFC70, "0ARABIC LIGATURE TEH WITH REH FINAL FORM|4ZAIN FINAL FORM|4MEEM FINAL FORM|4NOON FINAL FORM|4ALEF MAKSURA FINAL FORM|4YEH FINAL FORM"),
  (0xFC76, "0ARABIC LIGATURE THEH WITH REH FINAL FORM|4ZAIN FINAL FORM|4MEEM FINAL FORM|4NOON FINAL FORM|4ALEF MAKSURA FINAL FORM|4YEH FINAL FORM"),
  (0xFC7C, "0ARABIC LIGATURE FEH WITH ALEF MAKSURA FINAL FORM|4YEH FINAL FORM|2QAF WITH ALEF MAKSURA FINAL FORM|4YEH FINAL FORM|2KAF WITH ALEF FINAL FORM"),
  (0xFC81, "0ARABIC LIGATURE KAF WITH LAM FINAL FORM|4MEEM FINAL FORM|4ALEF MAKSURA FINAL FORM|4YEH FINAL FORM|2LAM WITH MEEM FINAL FORM|4ALEF MAKSURA FINAL FORM"),
  (0xFC87, "0ARABIC LIGATURE LAM WITH YEH FINAL FORM|2MEEM WITH ALEF FINAL FORM|4MEEM FINAL FORM|2NOON WITH REH FINAL FORM|4ZAIN FINAL FORM|4MEEM FINAL FORM"),
  (0xFC8D, "0ARABIC LIGATURE NOON WITH NOON FINAL FORM|4ALEF MAKSURA FINAL FORM|4YEH FINAL FORM|2ALEF MAKSURA WITH SUPERSCRIPT ALEF FINAL FORM"),
  (0xFC91, "0ARABIC LIGATURE YEH WITH REH FINAL FORM|4ZAIN FINAL FORM|4MEEM FINAL FORM|4NOON FINAL FORM|4ALEF MAKSURA FINAL FORM|4YEH FINAL FORM"),
  (0xFC97, "0ARABIC LIGATURE YEH WITH HAMZA ABOVE WITH JEEM INITIAL FORM|7HAH INITIAL FORM|7KHAH INITIAL FORM|7MEEM INITIAL FORM|7HEH INITIAL FORM"),
  (0xFC9C, "0ARABIC LIGATURE BEH WITH JEEM INITIAL FORM|4HAH INITIAL FORM|4KHAH INITIAL FORM|4MEEM INITIAL FORM|4HEH INITIAL FORM|2TEH WITH JEEM INITIAL FORM"),
  (0xFCA2, "0ARABIC LIGATURE TEH WITH HAH INITIAL FORM|4KHAH INITIAL FORM|4MEEM INITIAL FORM|4HEH INITIAL FORM|2THEH WITH MEEM INITIAL FORM"),
  (0xFCA7, "0ARABIC LIGATURE JEEM WITH HAH INITIAL FORM|4MEEM INITIAL FORM|2HAH WITH JEEM INITIAL FORM|4MEEM INITIAL FORM|2KHAH WITH JEEM INITIAL FORM"),
  (0xFCAC, "0ARABIC LIGATURE KHAH WITH MEEM INITIAL FORM|2SEEN WITH JEEM INITIAL FORM|4HAH INITIAL FORM|4KHAH INITIAL FORM|4MEEM INITIAL FORM"),
  (0xFCB1, "0ARABIC LIGATURE SAD WITH HAH INITIAL FORM|4KHAH INITIAL FORM|4MEEM INITIAL FORM|2DAD WITH JEEM INITIAL FORM|4HAH INITIAL FORM|4KHAH INITIAL FORM"),
  (0xFCB7, "0ARABIC LIGATURE DAD WITH MEEM INITIAL FORM|2TAH WITH HAH INITIAL FORM|2ZAH WITH MEEM INITIAL FORM|2AIN WITH JEEM INITIAL FORM|4MEEM INITIAL FORM"),
  (0xFCBC, "0ARABIC LIGATURE GHAIN WITH JEEM INITIAL FORM|4MEEM INITIAL FORM|2FEH WITH JEEM INITIAL FORM|4HAH INITIAL FORM|4KHAH INITIAL FORM|4MEEM INITIAL FORM"),
  (0xFCC2, "0ARABIC LIGATURE QAF WITH HAH INITIAL FORM|4MEEM INITIAL FORM|2KAF WITH JEEM INITIAL FORM|4HAH INITIAL FORM|4KHAH INITIAL FORM|4LAM INITIAL FORM"),
  (0xFCC8, "0ARABIC LIGATURE KAF WITH MEEM INITIAL FORM|2LAM WITH JEEM INITIAL FORM|4HAH INITIAL FORM|4KHAH INITIAL FORM|4MEEM INITIAL FORM|4HEH INITIAL FORM"),
  (0xFCCE, "0ARABIC LIGATURE MEEM WITH JEEM INITIAL FORM|4HAH INITIAL FORM|4KHAH INITIAL FORM|4MEEM INITIAL FORM|2NOON WITH JEEM INITIAL FORM|4HAH INITIAL FORM"),
  (0xFCD4, "0ARABIC LIGATURE NOON WITH KHAH INITIAL FORM|4MEEM INITIAL FORM|4HEH INITIAL FORM|2HEH WITH JEEM INITIAL FORM|4MEEM INITIAL FORM"),
  (0xFCD9, "0ARABIC LIGATURE HEH WITH SUPERSCRIPT ALEF INITIAL FORM|2YEH WITH JEEM INITIAL FORM|4HAH INITIAL FORM|4KHAH INITIAL FORM|4MEEM INITIAL FORM"),
  (0xFCDE, "0ARABIC LIGATURE YEH WITH HEH INITIAL FORM|4HAMZA ABOVE WITH MEEM MEDIAL FORM|7HEH MEDIAL FORM|2BEH WITH MEEM MEDIAL FORM|4HEH MEDIAL FORM"),
  (0xFCE3, "0ARABIC LIGATURE TEH WITH MEEM MEDIAL FORM|4HEH MEDIAL FORM|2THEH WITH MEEM MEDIAL FORM|4HEH MEDIAL FORM|2SEEN WITH MEEM MEDIAL FORM|4HEH MEDIAL FORM"),
  (0xFCE9, "0ARABIC LIGATURE SHEEN WITH MEEM MEDIAL FORM|4HEH MEDIAL FORM|2KAF WITH LAM MEDIAL FORM|4MEEM MEDIAL FORM|2LAM WITH MEEM MEDIAL FORM"),
  (0xFCEE, "0ARABIC LIGATURE NOON WITH MEEM MEDIAL FORM|4HEH MEDIAL FORM|2YEH WITH MEEM MEDIAL FORM|4HEH MEDIAL FORM|2SHADDA WITH FATHA MEDIAL FORM"),
  (0xFCF3, "0ARABIC LIGATURE SHADDA WITH DAMMA MEDIAL FORM|4KASRA MEDIAL FORM|2TAH WITH ALEF MAKSURA ISOLATED FORM|4YEH ISOLATED FORM"),
  (0xFCF7, "0ARABIC LIGATURE AIN WITH ALEF MAKSURA ISOLATED FORM|4YEH ISOLATED FORM|2GHAIN WITH ALEF MAKSURA ISOLATED FORM|4YEH ISOLATED FORM"),
  (0xFCFB, "0ARABIC LIGATURE SEEN WITH ALEF MAKSURA ISOLATED FORM|4YEH ISOLATED FORM|2SHEEN WITH ALEF MAKSURA ISOLATED FORM|4YEH ISOLATED FORM"),
  (0xFCFF, "0ARABIC LIGATURE HAH WITH ALEF MAKSURA ISOLATED FORM|4YEH ISOLATED FORM|2JEEM WITH ALEF MAKSURA ISOLATED FORM|4YEH ISOLATED FORM"),
  (0xFD03, "0ARABIC LIGATURE KHAH WITH ALEF MAKSURA ISOLATED FORM|4YEH ISOLATED FORM|2SAD WITH ALEF MAKSURA ISOLATED FORM|4YEH ISOLATED FORM"),
  (0xFD07, "0ARABIC LIGATURE DAD WITH ALEF MAKSURA ISOLATED FORM|4YEH ISOLATED FORM|2SHEEN WITH JEEM ISOLATED FORM|4HAH ISOLATED FORM|4KHAH ISOLATED FORM"),
  (0xFD0C, "0ARABIC LIGATURE SHEEN WITH MEEM ISOLATED FORM|4REH ISOLATED FORM|2SEEN WITH REH ISOLATED FORM|2SAD WITH REH ISOLATED FORM|2DAD WITH REH ISOLATED FORM"),
  (0xFD11, "0ARABIC LIGATURE TAH WITH ALEF MAKSURA FINAL FORM|4YEH FINAL FORM|2AIN WITH ALEF MAKSURA FINAL FORM|4YEH FINAL FORM"),
  (0xFD15, "0ARABIC LIGATURE GHAIN WITH ALEF MAKSURA FINAL FORM|4YEH FINAL FORM|2SEEN WITH ALEF MAKSURA FINAL FORM|4YEH FINAL FORM"),
  (0xFD19, "0ARABIC LIGATURE SHEEN WITH ALEF MAKSURA FINAL FORM|4YEH FINAL FORM|2HAH WITH ALEF MAKSURA FINAL FORM|4YEH FINAL FORM"),
  (0xFD1D, "0ARABIC LIGATURE JEEM WITH ALEF MAKSURA FINAL FORM|4YEH FINAL FORM|2KHAH WITH ALEF MAKSURA FINAL FORM|4YEH FINAL FORM"),
  (0xFD21, "0ARABIC LIGATURE SAD WITH ALEF MAKSURA FINAL FORM|4YEH FINAL FORM|2DAD WITH ALEF MAKSURA FINAL FORM|4YEH FINAL FORM|2SHEEN WITH JEEM FINAL FORM"),
  (0xFD26, "0ARABIC LIGATURE SHEEN WITH HAH FINAL FORM|4KHAH FINAL FORM|4MEEM FINAL FORM|4REH FINAL FORM|2SEEN WITH REH FINAL FORM|2SAD WITH REH FINAL FORM"),
  (0xFD2C, "0ARABIC LIGATURE DAD WITH REH FINAL FORM|2SHEEN WITH JEEM INITIAL FORM|4HAH INITIAL FORM|4KHAH INITIAL FORM|4MEEM INITIAL FORM"),
  (0xFD31, "0ARABIC LIGATURE SEEN WITH HEH INITIAL FORM|2SHEEN WITH HEH INITIAL FORM|2TAH WITH MEEM INITIAL FORM|2SEEN WITH JEEM MEDIAL FORM|4HAH MEDIAL FORM"),
  (0xFD36, "0ARABIC LIGATURE SEEN WITH KHAH MEDIAL FORM|2SHEEN WITH JEEM MEDIAL FORM|4HAH MEDIAL FORM|4KHAH MEDIAL FORM|2TAH WITH MEEM MEDIAL FORM"),
  (0xFD3B, "0ARABIC LIGATURE ZAH WITH MEEM MEDIAL FORM|2ALEF WITH FATHATAN FINAL FORM|5ISOLATED FORM|0ORNATE LEFT PARENTHESIS|1RIGHT PARENTHESIS"),
  (0xFD40, "0ARABIC LIGATURE RAHIMAHU ALLAAH|2RADI ALLAAHU ANH|4ANHAA|4ANHUM|4ANHUMAA|4ANHUNNA|2SALLALLAAHU ALAYHI WA-AALIH|2ALAYHI AS-SALAAM|2ALAYHIM AS-SALAAM"),
  (0xFD49, "0ARABIC LIGATURE ALAYHIMAA AS-SALAAM|2ALAYHI AS-SALAATU WAS-SALAAM|2QUDDISA SIRRAH|2SALLALLAHU ALAYHI WAAALIHEE WA-SALLAM|2ALAYHAA AS-SALAAM"),
  (0xFD4E, "0ARABIC LIGATURE TABAARAKA WA-TAAALAA|2RAHIMAHUM ALLAAH|2TEH WITH JEEM WITH MEEM INITIAL FORM|4HAH WITH JEEM FINAL FORM|7INITIAL FORM"),
  (0xFD53, "0ARABIC LIGATURE TEH WITH HAH WITH MEEM INITIAL FORM|4KHAH WITH MEEM INITIAL FORM|4MEEM WITH JEEM INITIAL FORM|6HAH INITIAL FORM|6KHAH INITIAL FORM"),
  (0xFD58, "0ARABIC LIGATURE JEEM WITH MEEM WITH HAH FINAL FORM|7INITIAL FORM|2HAH WITH MEEM WITH YEH FINAL FORM|6ALEF MAKSURA FINAL FORM"),
  (0xFD5C, "0ARABIC LIGATURE SEEN WITH HAH WITH JEEM INITIAL FORM|4JEEM WITH HAH INITIAL FORM|6ALEF MAKSURA FINAL FORM|4MEEM WITH HAH FINAL FORM|7INITIAL FORM"),
  (0xFD61, "0ARABIC LIGATURE SEEN WITH MEEM WITH JEEM INITIAL FORM|6MEEM FINAL FORM|7INITIAL FORM|2SAD WITH HAH WITH HAH FINAL FORM|7INITIAL FORM"),
  (0xFD66, "0ARABIC LIGATURE SAD WITH MEEM WITH MEEM FINAL FORM|2SHEEN WITH HAH WITH MEEM FINAL FORM|7INITIAL FORM|4JEEM WITH YEH FINAL FORM"),
  (0xFD6A, "0ARABIC LIGATURE SHEEN WITH MEEM WITH KHAH FINAL FORM|7INITIAL FORM|6MEEM FINAL FORM|7INITIAL FORM|2DAD WITH HAH WITH ALEF MAKSURA FINAL FORM"),
  (0xFD6F, "0ARABIC LIGATURE DAD WITH KHAH WITH MEEM FINAL FORM|7INITIAL FORM|2TAH WITH MEEM WITH HAH FINAL FORM|7INITIAL FORM|6MEEM INITIAL FORM|6YEH FINAL FORM"),
  (0xFD75, "0ARABIC LIGATURE AIN WITH JEEM WITH MEEM FINAL FORM|4MEEM WITH MEEM FINAL FORM|7INITIAL FORM|6ALEF MAKSURA FINAL FORM"),
  (0xFD79, "0ARABIC LIGATURE GHAIN WITH MEEM WITH MEEM FINAL FORM|6YEH FINAL FORM|6ALEF MAKSURA FINAL FORM|2FEH WITH KHAH WITH MEEM FINAL FORM|7INITIAL FORM"),
  (0xFD7E, "0ARABIC LIGATURE QAF WITH MEEM WITH HAH FINAL FORM|6MEEM FINAL FORM|2LAM WITH HAH WITH MEEM FINAL FORM|6YEH FINAL FORM|6ALEF MAKSURA FINAL FORM"),
  (0xFD83, "0ARABIC LIGATURE LAM WITH JEEM WITH JEEM INITIAL FORM|7FINAL FORM|4KHAH WITH MEEM FINAL FORM|7INITIAL FORM|4MEEM WITH HAH FINAL FORM|7INITIAL FORM"),
  (0xFD89, "0ARABIC LIGATURE MEEM WITH HAH WITH JEEM INITIAL FORM|6MEEM INITIAL FORM|6YEH FINAL FORM|4JEEM WITH HAH INITIAL FORM|6MEEM INITIAL FORM"),
  (0xFD8E, "0ARABIC LIGATURE MEEM WITH KHAH WITH JEEM INITIAL FORM|6MEEM INITIAL FORM"),
  (0xFD92, "0ARABIC LIGATURE MEEM WITH JEEM WITH KHAH INITIAL FORM|2HEH WITH MEEM WITH JEEM INITIAL FORM|6MEEM INITIAL FORM|2NOON WITH HAH WITH MEEM INITIAL FORM"),
  (0xFD96, "0ARABIC LIGATURE NOON WITH HAH WITH ALEF MAKSURA FINAL FORM|4JEEM WITH MEEM FINAL FORM|7INITIAL FORM|6ALEF MAKSURA FINAL FORM"),
  (0xFD9A, "0ARABIC LIGATURE NOON WITH MEEM WITH YEH FINAL FORM|6ALEF MAKSURA FINAL FORM|2YEH WITH MEEM WITH MEEM FINAL FORM|7INITIAL FORM"),
  (0xFD9E, "0ARABIC LIGATURE BEH WITH KHAH WITH YEH FINAL FORM|2TEH WITH JEEM WITH YEH FINAL FORM|6ALEF MAKSURA FINAL FORM|4KHAH WITH YEH FINAL FORM"),
  (0xFDA2, "0ARABIC LIGATURE TEH WITH KHAH WITH ALEF MAKSURA FINAL FORM|4MEEM WITH YEH FINAL FORM|6ALEF MAKSURA FINAL FORM|2JEEM WITH MEEM WITH YEH FINAL FORM"),
  (0xFDA6, "0ARABIC LIGATURE JEEM WITH HAH WITH ALEF MAKSURA FINAL FORM|4MEEM WITH ALEF MAKSURA FINAL FORM|2SEEN WITH KHAH WITH ALEF MAKSURA FINAL FORM"),
  (0xFDA9, "0ARABIC LIGATURE SAD WITH HAH WITH YEH FINAL FORM|2SHEEN WITH HAH WITH YEH FINAL FORM|2DAD WITH HAH WITH YEH FINAL FORM"),
  (0xFDAC, "0ARABIC LIGATURE LAM WITH JEEM WITH YEH FINAL FORM|4MEEM WITH YEH FINAL FORM|2YEH WITH HAH WITH YEH FINAL FORM|4JEEM WITH YEH FINAL FORM"),
  (0xFDB0, "0ARABIC LIGATURE YEH WITH MEEM WITH YEH FINAL FORM|2MEEM WITH MEEM WITH YEH FINAL FORM|2QAF WITH MEEM WITH YEH FINAL FORM"),
  (0xFDB3, "0ARABIC LIGATURE NOON WITH HAH WITH YEH FINAL FORM|2QAF WITH MEEM WITH HAH INITIAL FORM|2LAM WITH HAH WITH MEEM INITIAL FORM"),
  (0xFDB6, "0ARABIC LIGATURE AIN WITH MEEM WITH YEH FINAL FORM|2KAF WITH MEEM WITH YEH FINAL FORM|2NOON WITH JEEM WITH HAH INITIAL FORM"),
  (0xFDB9, "0ARABIC LIGATURE MEEM WITH KHAH WITH YEH FINAL FORM|2LAM WITH JEEM WITH MEEM INITIAL FORM|2KAF WITH MEEM WITH MEEM FINAL FORM"),
  (0xFDBC, "0ARABIC LIGATURE LAM WITH JEEM WITH MEEM FINAL FORM|2NOON WITH JEEM WITH HAH FINAL FORM|2JEEM WITH HAH WITH YEH FINAL FORM"),
  (0xFDBF, "0ARABIC LIGATURE HAH WITH JEEM WITH YEH FINAL FORM|2MEEM WITH JEEM WITH YEH FINAL FORM|2FEH WITH MEEM WITH YEH FINAL FORM"),
  (0xFDC2, "0ARABIC LIGATURE BEH WITH HAH WITH YEH FINAL FORM|2KAF WITH MEEM WITH MEEM INITIAL FORM|2AIN WITH JEEM WITH MEEM INITIAL FORM"),
  (0xFDC5, "0ARABIC LIGATURE SAD WITH MEEM WITH MEEM INITIAL FORM|2SEEN WITH KHAH WITH YEH FINAL FORM|2NOON WITH JEEM WITH YEH FINAL FORM"),
  (0xFDCF, "0ARABIC LIGATURE SALAAMUHU ALAYNAA"),
  (0xFDF0, "0ARABIC LIGATURE SALLA USED AS KORANIC STOP SIGN ISOLATED FORM|2QALA USED AS KORANIC STOP SIGN ISOLATED FORM|2ALLAH ISOLATED FORM|2AKBAR ISOLATED FORM"),
  (0xFDF4, "0ARABIC LIGATURE MOHAMMAD ISOLATED FORM|2SALAM ISOLATED FORM|2RASOUL ISOLATED FORM|2ALAYHE ISOLATED FORM|2WASALLAM ISOLATED FORM|2SALLA ISOLATED FORM"),
  (0xFDFA, "0ARABIC LIGATURE SALLALLAHOU ALAYHE WASALLAM|2JALLAJALALOUHOU|0RIAL SIGN|0ARABIC LIGATURE BISMILLAH AR-RAHMAN AR-RAHEEM|2SUBHAANAHU WA TAAALAA"),
  (0xFDFF, "0ARABIC LIGATURE AZZA WA JALL|0VARIATION SELECTOR-1|1SELECTOR-2|1SELECTOR-3|1SELECTOR-4|1SELECTOR-5|1SELECTOR-6|1SELECTOR-7|1SELECTOR-8|1SELECTOR-9"),
  (0xFE09, "0VARIATION SELECTOR-10|1SELECTOR-11|1SELECTOR-12|1SELECTOR-13|1SELECTOR-14|1SELECTOR-15|1SELECTOR-16|0PRESENTATION FORM FOR VERTICAL COMMA"),
  (0xFE11, "0PRESENTATION FORM FOR VERTICAL IDEOGRAPHIC COMMA|5FULL STOP|4COLON|4SEMICOLON|4EXCLAMATION MARK|4QUESTION MARK|4LEFT WHITE LENTICULAR BRACKET"),
  (0xFE18, "0PRESENTATION FORM FOR VERTICAL RIGHT WHITE LENTICULAR BRAKCET|4HORIZONTAL ELLIPSIS"),
  (0xFE20, "0COMBINING LIGATURE LEFT HALF|2RIGHT HALF|1DOUBLE TILDE LEFT HALF|3RIGHT HALF|1MACRON LEFT HALF|2RIGHT HALF|1CONJOINING MACRON"),
  (0xFE27, "0COMBINING LIGATURE LEFT HALF BELOW|2RIGHT HALF BELOW|1TILDE LEFT HALF BELOW|2RIGHT HALF BELOW|1MACRON LEFT HALF BELOW|2RIGHT HALF BELOW"),
  (0xFE2D, "0COMBINING CONJOINING MACRON BELOW|1CYRILLIC TITLO LEFT HALF|3RIGHT HALF|0PRESENTATION FORM FOR VERTICAL TWO DOT LEADER|4EM DASH|4EN DASH|4LOW LINE"),
  (0xFE34, "0PRESENTATION FORM FOR VERTICAL WAVY LOW LINE|4LEFT PARENTHESIS|4RIGHT PARENTHESIS|4LEFT CURLY BRACKET|4RIGHT CURLY BRACKET"),
  (0xFE39, "0PRESENTATION FORM FOR VERTICAL LEFT TORTOISE SHELL BRACKET|4RIGHT TORTOISE SHELL BRACKET|4LEFT BLACK LENTICULAR BRACKET"),
  (0xFE3C, "0PRESENTATION FORM FOR VERTICAL RIGHT BLACK LENTICULAR BRACKET|4LEFT DOUBLE ANGLE BRACKET|4RIGHT DOUBLE ANGLE BRACKET|4LEFT ANGLE BRACKET"),
  (0xFE40, "0PRESENTATION FORM FOR VERTICAL RIGHT ANGLE BRACKET|4LEFT CORNER BRACKET|4RIGHT CORNER BRACKET|4LEFT WHITE CORNER BRACKET|4RIGHT WHITE CORNER BRACKET"),
  (0xFE45, "0SESAME DOT|0WHITE SESAME DOT|0PRESENTATION FORM FOR VERTICAL LEFT SQUARE BRACKET|4RIGHT SQUARE BRACKET|0DASHED OVERLINE|0CENTRELINE OVERLINE"),
  (0xFE4B, "0WAVY OVERLINE|0DOUBLE WAVY OVERLINE|0DASHED LOW LINE|0CENTRELINE LOW LINE|0WAVY LOW LINE|0SMALL COMMA|1IDEOGRAPHIC COMMA|1FULL STOP"),
  (0xFE54, "0SMALL SEMICOLON|1COLON|1QUESTION MARK|1EXCLAMATION MARK|1EM DASH|1LEFT PARENTHESIS|1RIGHT PARENTHESIS|1LEFT CURLY BRACKET|1RIGHT CURLY BRACKET"),
  (0xFE5D, "0SMALL LEFT TORTOISE SHELL BRACKET|1RIGHT TORTOISE SHELL BRACKET|1NUMBER SIGN|1AMPERSAND|1ASTERISK|1PLUS SIGN|1HYPHEN-MINUS|1LESS-THAN SIGN"),
  (0xFE65, "0SMALL GREATER-THAN SIGN|1EQUALS SIGN"),
  (0xFE68, "0SMALL REVERSE SOLIDUS|1DOLLAR SIGN|1PERCENT SIGN|1COMMERCIAL AT"),
  (0xFE70, "0ARABIC FATHATAN ISOLATED FORM|1TATWEEL WITH FATHATAN ABOVE|1DAMMATAN ISOLATED FORM|1TAIL FRAGMENT|1KASRATAN ISOLATED FORM"),
  (0xFE76, "0ARABIC FATHA ISOLATED FORM|2MEDIAL FORM|1DAMMA ISOLATED FORM|2MEDIAL FORM|1KASRA ISOLATED FORM|2MEDIAL FORM|1SHADDA ISOLATED FORM|2MEDIAL FORM"),
  (0xFE7E, "0ARABIC SUKUN ISOLATED FORM|2MEDIAL FORM|1LETTER HAMZA ISOLATED FORM|2ALEF WITH MADDA ABOVE ISOLATED FORM|6FINAL FORM|4HAMZA ABOVE ISOLATED FORM"),
  (0xFE84, "0ARABIC LETTER ALEF WITH HAMZA ABOVE FINAL FORM|2WAW WITH HAMZA ABOVE ISOLATED FORM|6FINAL FORM|2ALEF WITH HAMZA BELOW ISOLATED FORM|6FINAL FORM"),
  (0xFE89, "0ARABIC LETTER YEH WITH HAMZA ABOVE ISOLATED FORM|6FINAL FORM|6INITIAL FORM|6MEDIAL FORM|2ALEF ISOLATED FORM|3FINAL FORM|2BEH ISOLATED FORM"),
  (0xFE90, "0ARABIC LETTER BEH FINAL FORM|3INITIAL FORM|3MEDIAL FORM|2TEH MARBUTA ISOLATED FORM|4FINAL FORM|3ISOLATED FORM|3FINAL FORM|3INITIAL FORM|3MEDIAL FORM"),
  (0xFE99, "0ARABIC LETTER THEH ISOLATED FORM|3FINAL FORM|3INITIAL FORM|3MEDIAL FORM|2JEEM ISOLATED FORM|3FINAL FORM|3INITIAL FORM|3MEDIAL FORM|2HAH ISOLATED FORM"),
  (0xFEA2, "0ARABIC LETTER HAH FINAL FORM|3INITIAL FORM|3MEDIAL FORM|2KHAH ISOLATED FORM|3FINAL FORM|3INITIAL FORM|3MEDIAL FORM|2DAL ISOLATED FORM|3FINAL FORM"),
  (0xFEAB, "0ARABIC LETTER THAL ISOLATED FORM|3FINAL FORM|2REH ISOLATED FORM|3FINAL FORM|2ZAIN ISOLATED FORM|3FINAL FORM|2SEEN ISOLATED FORM|3FINAL FORM"),
  (0xFEB3, "0ARABIC LETTER SEEN INITIAL FORM|3MEDIAL FORM|2SHEEN ISOLATED FORM|3FINAL FORM|3INITIAL FORM|3MEDIAL FORM|2SAD ISOLATED FORM|3FINAL FORM|3INITIAL FORM"),
  (0xFEBC, "0ARABIC LETTER SAD MEDIAL FORM|2DAD ISOLATED FORM|3FINAL FORM|3INITIAL FORM|3MEDIAL FORM|2TAH ISOLATED FORM|3FINAL FORM|3INITIAL FORM|3MEDIAL FORM"),
  (0xFEC5, "0ARABIC LETTER ZAH ISOLATED FORM|3FINAL FORM|3INITIAL FORM|3MEDIAL FORM|2AIN ISOLATED FORM|3FINAL FORM|3INITIAL FORM|3MEDIAL FORM|2GHAIN ISOLATED FORM"),
  (0xFECE, "0ARABIC LETTER GHAIN FINAL FORM|3INITIAL FORM|3MEDIAL FORM|2FEH ISOLATED FORM|3FINAL FORM|3INITIAL FORM|3MEDIAL FORM|2QAF ISOLATED FORM|3FINAL FORM"),
  (0xFED7, "0ARABIC LETTER QAF INITIAL FORM|3MEDIAL FORM|2KAF ISOLATED FORM|3FINAL FORM|3INITIAL FORM|3MEDIAL FORM|2LAM ISOLATED FORM|3FINAL FORM|3INITIAL FORM"),
  (0xFEE0, "0ARABIC LETTER LAM MEDIAL FORM|2MEEM ISOLATED FORM|3FINAL FORM|3INITIAL FORM|3MEDIAL FORM|2NOON ISOLATED FORM|3FINAL FORM|3INITIAL FORM|3MEDIAL FORM"),
  (0xFEE9, "0ARABIC LETTER HEH ISOLATED FORM|3FINAL FORM|3INITIAL FORM|3MEDIAL FORM|2WAW ISOLATED FORM|3FINAL FORM|2ALEF MAKSURA ISOLATED FORM|4FINAL FORM"),
  (0xFEF1, "0ARABIC LETTER YEH ISOLATED FORM|3FINAL FORM|3INITIAL FORM|3MEDIAL FORM|1LIGATURE LAM WITH ALEF WITH MADDA ABOVE ISOLATED FORM|8FINAL FORM"),
  (0xFEF7, "0ARABIC LIGATURE LAM WITH ALEF WITH HAMZA ABOVE ISOLATED FORM|8FINAL FORM|7BELOW ISOLATED FORM|8FINAL FORM|5ISOLATED FORM|5FINAL FORM"),
  (0xFEFF, "0ZERO WIDTH NO-BREAK SPACE"),
  (0xFF01, "0FULLWIDTH EXCLAMATION MARK|1QUOTATION MARK|1NUMBER SIGN|1DOLLAR SIGN|1PERCENT SIGN|1AMPERSAND|1APOSTROPHE|1LEFT PARENTHESIS|1RIGHT PARENTHESIS"),
  (0xFF0A, "0FULLWIDTH ASTERISK|1PLUS SIGN|1COMMA|1HYPHEN-MINUS|1FULL STOP|1SOLIDUS|1DIGIT ZERO|2ONE|2TWO|2THREE|2FOUR|2FIVE|2SIX|2SEVEN|2EIGHT|2NINE|1COLON"),
  (0xFF1B, "0FULLWIDTH SEMICOLON|1LESS-THAN SIGN|1EQUALS SIGN|1GREATER-THAN SIGN|1QUESTION MARK|1COMMERCIAL AT|1LATIN CAPITAL LETTER A|4B|4C|4D|4E|4F|4G|4H|4I|4J"),
  (0xFF2B, "0FULLWIDTH LATIN CAPITAL LETTER K|4L|4M|4N|4O|4P|4Q|4R|4S|4T|4U|4V|4W|4X|4Y|4Z|1LEFT SQUARE BRACKET|1REVERSE SOLIDUS|1RIGHT SQUARE BRACKET"),
  (0xFF3E, "0FULLWIDTH CIRCUMFLEX ACCENT|1LOW LINE|1GRAVE ACCENT|1LATIN SMALL LETTER A|4B|4C|4D|4E|4F|4G|4H|4I|4J|4K|4L|4M|4N|4O|4P|4Q|4R|4S|4T|4U|4V|4W|4X|4Y|4Z"),
  (0xFF5B, "0FULLWIDTH LEFT CURLY BRACKET|1VERTICAL LINE|1RIGHT CURLY BRACKET|1TILDE|1LEFT WHITE PARENTHESIS|1RIGHT WHITE PARENTHESIS"),
  (0xFF61, "0HALFWIDTH IDEOGRAPHIC FULL STOP|1LEFT CORNER BRACKET|1RIGHT CORNER BRACKET|1IDEOGRAPHIC COMMA|1KATAKANA MIDDLE DOT|2LETTER WO|3SMALL A|4I|4U|4E|4O"),
  (0xFF6C, "0HALFWIDTH KATAKANA LETTER SMALL YA|4YU|4YO|4TU|1KATAKANA-HIRAGANA PROLONGED SOUND MARK|1KATAKANA LETTER A|3I|3U|3E|3O|3KA|3KI|3KU|3KE|3KO|3SA|3SI|3SU"),
  (0xFF7E, "0HALFWIDTH KATAKANA LETTER SE|3SO|3TA|3TI|3TU|3TE|3TO|3NA|3NI|3NU|3NE|3NO|3HA|3HI|3HU|3HE|3HO|3MA|3MI|3MU|3ME|3MO|3YA|3YU|3YO|3RA|3RI|3RU|3RE|3RO|3WA"),
  (0xFF9D, "0HALFWIDTH KATAKANA LETTER N|2VOICED SOUND MARK|2SEMI-VOICED SOUND MARK|1HANGUL FILLER|2LETTER KIYEOK|3SSANGKIYEOK|3KIYEOK-SIOS|3NIEUN|3NIEUN-CIEUC"),
  (0xFFA6, "0HALFWIDTH HANGUL LETTER NIEUN-HIEUH|3TIKEUT|3SSANGTIKEUT|3RIEUL|3RIEUL-KIYEOK|3RIEUL-MIEUM|3RIEUL-PIEUP|3RIEUL-SIOS|3RIEUL-THIEUTH|3RIEUL-PHIEUPH"),
  (0xFFB0, "0HALFWIDTH HANGUL LETTER RIEUL-HIEUH|3MIEUM|3PIEUP|3SSANGPIEUP|3PIEUP-SIOS|3SIOS|3SSANGSIOS|3IEUNG|3CIEUC|3SSANGCIEUC|3CHIEUCH|3KHIEUKH|3THIEUTH"),
  (0xFFBD, "0HALFWIDTH HANGUL LETTER PHIEUPH|3HIEUH"),
  (0xFFC2, "0HALFWIDTH HANGUL LETTER A|3AE|3YA|3YAE|3EO|3E"),
  (0xFFCA, "0HALFWIDTH HANGUL LETTER YEO|3YE|3O|3WA|3WAE|3OE"),
  (0xFFD2, "0HALFWIDTH HANGUL LETTER YO|3U|3WEO|3WE|3WI|3YU"),
  (0xFFDA, "0HALFWIDTH HANGUL LETTER EU|3YI|3I"),
  (0xFFE0, "0FULLWIDTH CENT SIGN|1POUND SIGN|1NOT SIGN|1MACRON|1BROKEN BAR|1YEN SIGN|1WON SIGN"),
  (0xFFE8, "0HALFWIDTH FORMS LIGHT VERTICAL|1LEFTWARDS ARROW|1UPWARDS ARROW|1RIGHTWARDS ARROW|1DOWNWARDS ARROW|1BLACK SQUARE|1WHITE CIRCLE"),
  (0xFFF9, "0INTERLINEAR ANNOTATION ANCHOR|2SEPARATOR|2TERMINATOR|0OBJECT REPLACEMENT CHARACTER|0REPLACEMENT CHARACTER")]

end CharName
end ScopeChain
