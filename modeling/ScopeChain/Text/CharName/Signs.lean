/-
Names of letters with marks, punctuation, and signs of mathematics and technology.

A row has the names of characters one behind the other.  In front of each stands how many
words it shares with the name before it.
-/
namespace ScopeChain
namespace CharName

def signs : List (Nat × String) := [
  (0x1C11, "0LEPCHA LETTER FA|2FLA|2BA|2BLA|2MA|2MLA|2TSA|2TSHA|2DZA|2YA|2RA|2LA|2HA|2HLA|2VA|2SA|2SHA|2WA|2A|1SUBJOINED LETTER YA|3RA|1VOWEL SIGN AA|3I|3O|3OO|3U"),
  (0x1C2B, "0LEPCHA VOWEL SIGN UU|3E|1CONSONANT SIGN K|3M|3L|3N|3P|3R|3T|3NYIN-DO|3KANG|1SIGN RAN|2NUKTA"),
  (0x1C3B, "0LEPCHA PUNCTUATION TA-ROL|2NYET THYOOM TA-ROL|2CER-WA|2TSHOOK CER-WA|2TSHOOK|1DIGIT ZERO|2ONE|2TWO|2THREE|2FOUR|2FIVE|2SIX|2SEVEN|2EIGHT|2NINE"),
  (0x1C4D, "0LEPCHA LETTER TTA|2TTHA|2DDA|0OL CHIKI DIGIT ZERO|3ONE|3TWO|3THREE|3FOUR|3FIVE|3SIX|3SEVEN|3EIGHT|3NINE|2LETTER LA|3AT|3AG|3ANG|3AL|3LAA|3AAK|3AAJ"),
  (0x1C62, "0OL CHIKI LETTER AAM|3AAW|3LI|3IS|3IH|3INY|3IR|3LU|3UC|3UD|3UNN|3UY|3LE|3EP|3EDD|3EN|3ERR|3LO|3OTT|3OB|3OV|3OH|2MU TTUDDAG|2GAAHLAA TTUDDAAG"),
  (0x1C7A, "0OL CHIKI MU-GAAHLAA TTUDDAAG|2RELAA|2PHAARKAA|2AHAD|2PUNCTUATION MUCAAD|3DOUBLE MUCAAD|0CYRILLIC SMALL LETTER ROUNDED VE|3LONG-LEGGED DE|3NARROW O"),
  (0x1C83, "0CYRILLIC SMALL LETTER WIDE ES|3TALL TE|3THREE-LEGGED TE|3TALL HARD SIGN|4YAT|3UNBLENDED UK"),
  (0x1C90, "0GEORGIAN MTAVRULI CAPITAL LETTER AN|4BAN|4GAN|4DON|4EN|4VIN|4ZEN|4TAN|4IN|4KAN|4LAS|4MAN|4NAR|4ON|4PAR|4ZHAR|4RAE|4SAN|4TAR|4UN|4PHAR|4KHAR|4GHAN"),
  (0x1CA7, "0GEORGIAN MTAVRULI CAPITAL LETTER QAR|4SHIN|4CHIN|4CAN|4JIL|4CIL|4CHAR|4XAN|4JHAN|4HAE|4HE|4HIE|4WE|4HAR|4HOE|4FI|4YN|4ELIFI|4TURNED GAN|4AIN"),
  (0x1CBD, "0GEORGIAN MTAVRULI CAPITAL LETTER AEN|4HARD SIGN|4LABIAL SIGN|0SUNDANESE PUNCTUATION BINDU SURYA|3PANGLONG|3PURNAMA|3CAKRA|3LEU SATANGA|3KA SATANGA"),
  (0x1CC6, "0SUNDANESE PUNCTUATION BINDU DA SATANGA|3BA SATANGA"),
  (0x1CD0, "0VEDIC TONE KARSHANA|2SHARA|2PRENKHA|1SIGN NIHSHVASA|2YAJURVEDIC MIDLINE SVARITA|1TONE YAJURVEDIC AGGRAVATED INDEPENDENT SVARITA|3INDEPENDENT SVARITA"),
  (0x1CD7, "0VEDIC TONE YAJURVEDIC KATHAKA INDEPENDENT SVARITA|2CANDRA BELOW|2YAJURVEDIC KATHAKA INDEPENDENT SVARITA SCHROEDER|2DOUBLE SVARITA|2TRIPLE SVARITA"),
  (0x1CDC, "0VEDIC TONE KATHAKA ANUDATTA|2DOT BELOW|2TWO DOTS BELOW|2THREE DOTS BELOW|2RIGVEDIC KASHMIRI INDEPENDENT SVARITA|2ATHARVAVEDIC INDEPENDENT SVARITA"),
  (0x1CE2, "0VEDIC SIGN VISARGA SVARITA|3UDATTA|2REVERSED VISARGA UDATTA|2VISARGA ANUDATTA|2REVERSED VISARGA ANUDATTA|2VISARGA UDATTA WITH TAIL"),
  (0x1CE8, "0VEDIC SIGN VISARGA ANUDATTA WITH TAIL|2ANUSVARA ANTARGOMUKHA|3BAHIRGOMUKHA|3VAMAGOMUKHA|4WITH TAIL|2TIRYAK|2HEXIFORM LONG ANUSVARA|2LONG ANUSVARA"),
  (0x1CF0, "0VEDIC SIGN RTHANG LONG ANUSVARA|2ANUSVARA UBHAYATO MUKHA|2ARDHAVISARGA|2ROTATED ARDHAVISARGA|1TONE CANDRA ABOVE|1SIGN JIHVAMULIYA|2UPADHMANIYA"),
  (0x1CF7, "0VEDIC SIGN ATIKRAMA|1TONE RING ABOVE|2DOUBLE RING ABOVE|1SIGN DOUBLE ANUSVARA ANTARGOMUKHA"),
  (0x1D00, "0LATIN LETTER SMALL CAPITAL A|4AE|1SMALL LETTER TURNED AE|1LETTER SMALL CAPITAL BARRED B|4C|4D|4ETH|4E|1SMALL LETTER TURNED OPEN E|4I"),
  (0x1D0A, "0LATIN LETTER SMALL CAPITAL J|4K|4L WITH STROKE|4M|4REVERSED N|4O|4OPEN O|1SMALL LETTER SIDEWAYS O|4OPEN O|4O WITH STROKE|3TURNED OE"),
  (0x1D15, "0LATIN LETTER SMALL CAPITAL OU|1SMALL LETTER TOP HALF O|3BOTTOM HALF O|1LETTER SMALL CAPITAL P|4REVERSED R|4TURNED R|4T|4U|1SMALL LETTER SIDEWAYS U"),
  (0x1D1E, "0LATIN SMALL LETTER SIDEWAYS DIAERESIZED U|4TURNED M|1LETTER SMALL CAPITAL V|4W|4Z|4EZH|2VOICED LARYNGEAL SPIRANT|2AIN"),
  (0x1D26, "0GREEK LETTER SMALL CAPITAL GAMMA|4LAMDA|4PI|4RHO|4PSI|0CYRILLIC LETTER SMALL CAPITAL EL|0MODIFIER LETTER CAPITAL A|3AE|3B|3BARRED B|3D|3E|3REVERSED E"),
  (0x1D33, "0MODIFIER LETTER CAPITAL G|3H|3I|3J|3K|3L|3M|3N|3REVERSED N|3O|3OU|3P|3R|3T|3U|3W|2SMALL A|3TURNED A|3ALPHA|3TURNED AE|3B|3D|3E|3SCHWA|3OPEN E"),
  (0x1D4C, "0MODIFIER LETTER SMALL TURNED OPEN E|3G|3TURNED I|3K|3M|3ENG|3O|3OPEN O|3TOP HALF O|3BOTTOM HALF O|3P|3T|3U|3SIDEWAYS U|3TURNED M|3V|3AIN|3BETA"),
  (0x1D5E, "0MODIFIER LETTER SMALL GREEK GAMMA|3DELTA|3GREEK PHI|3CHI|0LATIN SUBSCRIPT SMALL LETTER I|4R|4U|4V|0GREEK SUBSCRIPT SMALL LETTER BETA|4GAMMA|4RHO|4PHI"),
  (0x1D6A, "0GREEK SUBSCRIPT SMALL LETTER CHI|0LATIN SMALL LETTER UE|3B WITH MIDDLE TILDE|3D WITH MIDDLE TILDE|3F WITH MIDDLE TILDE|3M WITH MIDDLE TILDE"),
  (0x1D70, "0LATIN SMALL LETTER N WITH MIDDLE TILDE|3P WITH MIDDLE TILDE|3R WITH MIDDLE TILDE|5FISHHOOK AND MIDDLE TILDE|3S WITH MIDDLE TILDE|3T WITH MIDDLE TILDE"),
  (0x1D76, "0LATIN SMALL LETTER Z WITH MIDDLE TILDE|3TURNED G|0MODIFIER LETTER CYRILLIC EN|0LATIN SMALL LETTER INSULAR G|3TH WITH STRIKETHROUGH"),
  (0x1D7B, "0LATIN SMALL CAPITAL LETTER I WITH STROKE|2LETTER IOTA WITH STROKE|3P WITH STROKE|2CAPITAL LETTER U WITH STROKE|2LETTER UPSILON WITH STROKE"),
  (0x1D80, "0LATIN SMALL LETTER B WITH PALATAL HOOK|3D WITH PALATAL HOOK|3F WITH PALATAL HOOK|3G WITH PALATAL HOOK|3K WITH PALATAL HOOK|3L WITH PALATAL HOOK"),
  (0x1D86, "0LATIN SMALL LETTER M WITH PALATAL HOOK|3N WITH PALATAL HOOK|3P WITH PALATAL HOOK|3R WITH PALATAL HOOK|3S WITH PALATAL HOOK|3ESH WITH PALATAL HOOK"),
  (0x1D8C, "0LATIN SMALL LETTER V WITH PALATAL HOOK|3X WITH PALATAL HOOK|3Z WITH PALATAL HOOK|3A WITH RETROFLEX HOOK|3ALPHA WITH RETROFLEX HOOK"),
  (0x1D91, "0LATIN SMALL LETTER D WITH HOOK AND TAIL|3E WITH RETROFLEX HOOK|3OPEN E WITH RETROFLEX HOOK|3REVERSED OPEN E WITH RETROFLEX HOOK"),
  (0x1D95, "0LATIN SMALL LETTER SCHWA WITH RETROFLEX HOOK|3I WITH RETROFLEX HOOK|3OPEN O WITH RETROFLEX HOOK|3ESH WITH RETROFLEX HOOK|3U WITH RETROFLEX HOOK"),
  (0x1D9A, "0LATIN SMALL LETTER EZH WITH RETROFLEX HOOK|0MODIFIER LETTER SMALL TURNED ALPHA|3C|4WITH CURL|3ETH|3REVERSED OPEN E|3F|3DOTLESS J WITH STROKE"),
  (0x1DA2, "0MODIFIER LETTER SMALL SCRIPT G|3TURNED H|3I WITH STROKE|3IOTA|3CAPITAL I|5WITH STROKE|3J WITH CROSSED-TAIL|3L WITH RETROFLEX HOOK|5PALATAL HOOK"),
  (0x1DAB, "0MODIFIER LETTER SMALL CAPITAL L|3M WITH HOOK|3TURNED M WITH LONG LEG|3N WITH LEFT HOOK|5RETROFLEX HOOK|3CAPITAL N|3BARRED O|3PHI|3S WITH HOOK|3ESH"),
  (0x1DB5, "0MODIFIER LETTER SMALL T WITH PALATAL HOOK|3U BAR|3UPSILON|3CAPITAL U|3V WITH HOOK|3TURNED V|3Z|4WITH RETROFLEX HOOK|5CURL|3EZH|3THETA"),
  (0x1DC0, "0COMBINING DOTTED GRAVE ACCENT|2ACUTE ACCENT|1SNAKE BELOW|1SUSPENSION MARK|1MACRON-ACUTE|1GRAVE-MACRON|1MACRON-GRAVE|1ACUTE-MACRON|1GRAVE-ACUTE-GRAVE"),
  (0x1DC9, "0COMBINING ACUTE-GRAVE-ACUTE|1LATIN SMALL LETTER R BELOW|1BREVE-MACRON|1MACRON-BREVE|1DOUBLE CIRCUMFLEX ABOVE|1OGONEK ABOVE|1ZIGZAG BELOW|1IS BELOW"),
  (0x1DD1, "0COMBINING UR ABOVE|1US ABOVE|1LATIN SMALL LETTER FLATTENED OPEN A ABOVE|4AE|4AO|4AV|4C CEDILLA|4INSULAR D|4ETH|4G|2LETTER SMALL CAPITAL G"),
  (0x1DDC, "0COMBINING LATIN SMALL LETTER K|4L|2LETTER SMALL CAPITAL L|5M|2SMALL LETTER N|2LETTER SMALL CAPITAL N|5R|2SMALL LETTER R ROTUNDA|4S|4LONG S|4Z|4ALPHA"),
  (0x1DE8, "0COMBINING LATIN SMALL LETTER B|4BETA|4SCHWA|4F|4L WITH DOUBLE MIDDLE TILDE|4O WITH LIGHT CENTRALIZATION STROKE|4P|4ESH"),
  (0x1DF0, "0COMBINING LATIN SMALL LETTER U WITH LIGHT CENTRALIZATION STROKE|4W|4A WITH DIAERESIS|4O WITH DIAERESIS|4U WITH DIAERESIS|1UP TACK ABOVE"),
  (0x1DF6, "0COMBINING KAVYKA ABOVE RIGHT|3LEFT|1DOT ABOVE LEFT|1WIDE INVERTED BRIDGE BELOW|1DOT BELOW LEFT|1DELETION MARK|1DOUBLE INVERTED BREVE BELOW"),
  (0x1DFD, "0COMBINING ALMOST EQUAL TO BELOW|1LEFT ARROWHEAD ABOVE|1RIGHT ARROWHEAD AND DOWN ARROWHEAD BELOW|0LATIN CAPITAL LETTER A WITH RING BELOW"),
  (0x1E01, "0LATIN SMALL LETTER A WITH RING BELOW|1CAPITAL LETTER B WITH DOT ABOVE|1SMALL LETTER B WITH DOT ABOVE|1CAPITAL LETTER B WITH DOT BELOW"),
  (0x1E05, "0LATIN SMALL LETTER B WITH DOT BELOW|1CAPITAL LETTER B WITH LINE BELOW|1SMALL LETTER B WITH LINE BELOW|1CAPITAL LETTER C WITH CEDILLA AND ACUTE"),
  (0x1E09, "0LATIN SMALL LETTER C WITH CEDILLA AND ACUTE|1CAPITAL LETTER D WITH DOT ABOVE|1SMALL LETTER D WITH DOT ABOVE|1CAPITAL LETTER D WITH DOT BELOW"),
  (0x1E0D, "0LATIN SMALL LETTER D WITH DOT BELOW|1CAPITAL LETTER D WITH LINE BELOW|1SMALL LETTER D WITH LINE BELOW|1CAPITAL LETTER D WITH CEDILLA"),
  (0x1E11, "0LATIN SMALL LETTER D WITH CEDILLA|1CAPITAL LETTER D WITH CIRCUMFLEX BELOW|1SMALL LETTER D WITH CIRCUMFLEX BELOW"),
  (0x1E14, "0LATIN CAPITAL LETTER E WITH MACRON AND GRAVE|1SMALL LETTER E WITH MACRON AND GRAVE|1CAPITAL LETTER E WITH MACRON AND ACUTE"),
  (0x1E17, "0LATIN SMALL LETTER E WITH MACRON AND ACUTE|1CAPITAL LETTER E WITH CIRCUMFLEX BELOW|1SMALL LETTER E WITH CIRCUMFLEX BELOW"),
  (0x1E1A, "0LATIN CAPITAL LETTER E WITH TILDE BELOW|1SMALL LETTER E WITH TILDE BELOW|1CAPITAL LETTER E WITH CEDILLA AND BREVE"),
  (0x1E1D, "0LATIN SMALL LETTER E WITH CEDILLA AND BREVE|1CAPITAL LETTER F WITH DOT ABOVE|1SMALL LETTER F WITH DOT ABOVE|1CAPITAL LETTER G WITH MACRON"),
  (0x1E21, "0LATIN SMALL LETTER G WITH MACRON|1CAPITAL LETTER H WITH DOT ABOVE|1SMALL LETTER H WITH DOT ABOVE|1CAPITAL LETTER H WITH DOT BELOW"),
  (0x1E25, "0LATIN SMALL LETTER H WITH DOT BELOW|1CAPITAL LETTER H WITH DIAERESIS|1SMALL LETTER H WITH DIAERESIS|1CAPITAL LETTER H WITH CEDILLA"),
  (0x1E29, "0LATIN SMALL LETTER H WITH CEDILLA|1CAPITAL LETTER H WITH BREVE BELOW|1SMALL LETTER H WITH BREVE BELOW|1CAPITAL LETTER I WITH TILDE BELOW"),
  (0x1E2D, "0LATIN SMALL LETTER I WITH TILDE BELOW|1CAPITAL LETTER I WITH DIAERESIS AND ACUTE|1SMALL LETTER I WITH DIAERESIS AND ACUTE"),
  (0x1E30, "0LATIN CAPITAL LETTER K WITH ACUTE|1SMALL LETTER K WITH ACUTE|1CAPITAL LETTER K WITH DOT BELOW|1SMALL LETTER K WITH DOT BELOW"),
  (0x1E34, "0LATIN CAPITAL LETTER K WITH LINE BELOW|1SMALL LETTER K WITH LINE BELOW|1CAPITAL LETTER L WITH DOT BELOW|1SMALL LETTER L WITH DOT BELOW"),
  (0x1E38, "0LATIN CAPITAL LETTER L WITH DOT BELOW AND MACRON|1SMALL LETTER L WITH DOT BELOW AND MACRON|1CAPITAL LETTER L WITH LINE BELOW"),
  (0x1E3B, "0LATIN SMALL LETTER L WITH LINE BELOW|1CAPITAL LETTER L WITH CIRCUMFLEX BELOW|1SMALL LETTER L WITH CIRCUMFLEX BELOW|1CAPITAL LETTER M WITH ACUTE"),
  (0x1E3F, "0LATIN SMALL LETTER M WITH ACUTE|1CAPITAL LETTER M WITH DOT ABOVE|1SMALL LETTER M WITH DOT ABOVE|1CAPITAL LETTER M WITH DOT BELOW"),
  (0x1E43, "0LATIN SMALL LETTER M WITH DOT BELOW|1CAPITAL LETTER N WITH DOT ABOVE|1SMALL LETTER N WITH DOT ABOVE|1CAPITAL LETTER N WITH DOT BELOW"),
  (0x1E47, "0LATIN SMALL LETTER N WITH DOT BELOW|1CAPITAL LETTER N WITH LINE BELOW|1SMALL LETTER N WITH LINE BELOW|1CAPITAL LETTER N WITH CIRCUMFLEX BELOW"),
  (0x1E4B, "0LATIN SMALL LETTER N WITH CIRCUMFLEX BELOW|1CAPITAL LETTER O WITH TILDE AND ACUTE|1SMALL LETTER O WITH TILDE AND ACUTE"),
  (0x1E4E, "0LATIN CAPITAL LETTER O WITH TILDE AND DIAERESIS|1SMALL LETTER O WITH TILDE AND DIAERESIS|1CAPITAL LETTER O WITH MACRON AND GRAVE"),
  (0x1E51, "0LATIN SMALL LETTER O WITH MACRON AND GRAVE|1CAPITAL LETTER O WITH MACRON AND ACUTE|1SMALL LETTER O WITH MACRON AND ACUTE|1CAPITAL LETTER P WITH ACUTE"),
  (0x1E55, "0LATIN SMALL LETTER P WITH ACUTE|1CAPITAL LETTER P WITH DOT ABOVE|1SMALL LETTER P WITH DOT ABOVE|1CAPITAL LETTER R WITH DOT ABOVE"),
  (0x1E59, "0LATIN SMALL LETTER R WITH DOT ABOVE|1CAPITAL LETTER R WITH DOT BELOW|1SMALL LETTER R WITH DOT BELOW|1CAPITAL LETTER R WITH DOT BELOW AND MACRON"),
  (0x1E5D, "0LATIN SMALL LETTER R WITH DOT BELOW AND MACRON|1CAPITAL LETTER R WITH LINE BELOW|1SMALL LETTER R WITH LINE BELOW|1CAPITAL LETTER S WITH DOT ABOVE"),
  (0x1E61, "0LATIN SMALL LETTER S WITH DOT ABOVE|1CAPITAL LETTER S WITH DOT BELOW|1SMALL LETTER S WITH DOT BELOW|1CAPITAL LETTER S WITH ACUTE AND DOT ABOVE"),
  (0x1E65, "0LATIN SMALL LETTER S WITH ACUTE AND DOT ABOVE|1CAPITAL LETTER S WITH CARON AND DOT ABOVE|1SMALL LETTER S WITH CARON AND DOT ABOVE"),
  (0x1E68, "0LATIN CAPITAL LETTER S WITH DOT BELOW AND DOT ABOVE|1SMALL LETTER S WITH DOT BELOW AND DOT ABOVE|1CAPITAL LETTER T WITH DOT ABOVE"),
  (0x1E6B, "0LATIN SMALL LETTER T WITH DOT ABOVE|1CAPITAL LETTER T WITH DOT BELOW|1SMALL LETTER T WITH DOT BELOW|1CAPITAL LETTER T WITH LINE BELOW"),
  (0x1E6F, "0LATIN SMALL LETTER T WITH LINE BELOW|1CAPITAL LETTER T WITH CIRCUMFLEX BELOW|1SMALL LETTER T WITH CIRCUMFLEX BELOW"),
  (0x1E72, "0LATIN CAPITAL LETTER U WITH DIAERESIS BELOW|1SMALL LETTER U WITH DIAERESIS BELOW|1CAPITAL LETTER U WITH TILDE BELOW|1SMALL LETTER U WITH TILDE BELOW"),
  (0x1E76, "0LATIN CAPITAL LETTER U WITH CIRCUMFLEX BELOW|1SMALL LETTER U WITH CIRCUMFLEX BELOW|1CAPITAL LETTER U WITH TILDE AND ACUTE"),
  (0x1E79, "0LATIN SMALL LETTER U WITH TILDE AND ACUTE|1CAPITAL LETTER U WITH MACRON AND DIAERESIS|1SMALL LETTER U WITH MACRON AND DIAERESIS"),
  (0x1E7C, "0LATIN CAPITAL LETTER V WITH TILDE|1SMALL LETTER V WITH TILDE|1CAPITAL LETTER V WITH DOT BELOW|1SMALL LETTER V WITH DOT BELOW"),
  (0x1E80, "0LATIN CAPITAL LETTER W WITH GRAVE|1SMALL LETTER W WITH GRAVE|1CAPITAL LETTER W WITH ACUTE|1SMALL LETTER W WITH ACUTE|1CAPITAL LETTER W WITH DIAERESIS"),
  (0x1E85, "0LATIN SMALL LETTER W WITH DIAERESIS|1CAPITAL LETTER W WITH DOT ABOVE|1SMALL LETTER W WITH DOT ABOVE|1CAPITAL LETTER W WITH DOT BELOW"),
  (0x1E89, "0LATIN SMALL LETTER W WITH DOT BELOW|1CAPITAL LETTER X WITH DOT ABOVE|1SMALL LETTER X WITH DOT ABOVE|1CAPITAL LETTER X WITH DIAERESIS"),
  (0x1E8D, "0LATIN SMALL LETTER X WITH DIAERESIS|1CAPITAL LETTER Y WITH DOT ABOVE|1SMALL LETTER Y WITH DOT ABOVE|1CAPITAL LETTER Z WITH CIRCUMFLEX"),
  (0x1E91, "0LATIN SMALL LETTER Z WITH CIRCUMFLEX|1CAPITAL LETTER Z WITH DOT BELOW|1SMALL LETTER Z WITH DOT BELOW|1CAPITAL LETTER Z WITH LINE BELOW"),
  (0x1E95, "0LATIN SMALL LETTER Z WITH LINE BELOW|3H WITH LINE BELOW|3T WITH DIAERESIS|3W WITH RING ABOVE|3Y WITH RING ABOVE|3A WITH RIGHT HALF RING"),
  (0x1E9B, "0LATIN SMALL LETTER LONG S WITH DOT ABOVE|6DIAGONAL STROKE|6HIGH STROKE|1CAPITAL LETTER SHARP S|1SMALL LETTER DELTA|1CAPITAL LETTER A WITH DOT BELOW"),
  (0x1EA1, "0LATIN SMALL LETTER A WITH DOT BELOW|1CAPITAL LETTER A WITH HOOK ABOVE|1SMALL LETTER A WITH HOOK ABOVE|1CAPITAL LETTER A WITH CIRCUMFLEX AND ACUTE"),
  (0x1EA5, "0LATIN SMALL LETTER A WITH CIRCUMFLEX AND ACUTE|1CAPITAL LETTER A WITH CIRCUMFLEX AND GRAVE|1SMALL LETTER A WITH CIRCUMFLEX AND GRAVE"),
  (0x1EA8, "0LATIN CAPITAL LETTER A WITH CIRCUMFLEX AND HOOK ABOVE|1SMALL LETTER A WITH CIRCUMFLEX AND HOOK ABOVE|1CAPITAL LETTER A WITH CIRCUMFLEX AND TILDE"),
  (0x1EAB, "0LATIN SMALL LETTER A WITH CIRCUMFLEX AND TILDE|1CAPITAL LETTER A WITH CIRCUMFLEX AND DOT BELOW|1SMALL LETTER A WITH CIRCUMFLEX AND DOT BELOW"),
  (0x1EAE, "0LATIN CAPITAL LETTER A WITH BREVE AND ACUTE|1SMALL LETTER A WITH BREVE AND ACUTE|1CAPITAL LETTER A WITH BREVE AND GRAVE"),
  (0x1EB1, "0LATIN SMALL LETTER A WITH BREVE AND GRAVE|1CAPITAL LETTER A WITH BREVE AND HOOK ABOVE|1SMALL LETTER A WITH BREVE AND HOOK ABOVE"),
  (0x1EB4, "0LATIN CAPITAL LETTER A WITH BREVE AND TILDE|1SMALL LETTER A WITH BREVE AND TILDE|1CAPITAL LETTER A WITH BREVE AND DOT BELOW"),
  (0x1EB7, "0LATIN SMALL LETTER A WITH BREVE AND DOT BELOW|1CAPITAL LETTER E WITH DOT BELOW|1SMALL LETTER E WITH DOT BELOW|1CAPITAL LETTER E WITH HOOK ABOVE"),
  (0x1EBB, "0LATIN SMALL LETTER E WITH HOOK ABOVE|1CAPITAL LETTER E WITH TILDE|1SMALL LETTER E WITH TILDE|1CAPITAL LETTER E WITH CIRCUMFLEX AND ACUTE"),
  (0x1EBF, "0LATIN SMALL LETTER E WITH CIRCUMFLEX AND ACUTE|1CAPITAL LETTER E WITH CIRCUMFLEX AND GRAVE|1SMALL LETTER E WITH CIRCUMFLEX AND GRAVE"),
  (0x1EC2, "0LATIN CAPITAL LETTER E WITH CIRCUMFLEX AND HOOK ABOVE|1SMALL LETTER E WITH CIRCUMFLEX AND HOOK ABOVE|1CAPITAL LETTER E WITH CIRCUMFLEX AND TILDE"),
  (0x1EC5, "0LATIN SMALL LETTER E WITH CIRCUMFLEX AND TILDE|1CAPITAL LETTER E WITH CIRCUMFLEX AND DOT BELOW|1SMALL LETTER E WITH CIRCUMFLEX AND DOT BELOW"),
  (0x1EC8, "0LATIN CAPITAL LETTER I WITH HOOK ABOVE|1SMALL LETTER I WITH HOOK ABOVE|1CAPITAL LETTER I WITH DOT BELOW|1SMALL LETTER I WITH DOT BELOW"),
  (0x1ECC, "0LATIN CAPITAL LETTER O WITH DOT BELOW|1SMALL LETTER O WITH DOT BELOW|1CAPITAL LETTER O WITH HOOK ABOVE|1SMALL LETTER O WITH HOOK ABOVE"),
  (0x1ED0, "0LATIN CAPITAL LETTER O WITH CIRCUMFLEX AND ACUTE|1SMALL LETTER O WITH CIRCUMFLEX AND ACUTE|1CAPITAL LETTER O WITH CIRCUMFLEX AND GRAVE"),
  (0x1ED3, "0LATIN SMALL LETTER O WITH CIRCUMFLEX AND GRAVE|1CAPITAL LETTER O WITH CIRCUMFLEX AND HOOK ABOVE|1SMALL LETTER O WITH CIRCUMFLEX AND HOOK ABOVE"),
  (0x1ED6, "0LATIN CAPITAL LETTER O WITH CIRCUMFLEX AND TILDE|1SMALL LETTER O WITH CIRCUMFLEX AND TILDE|1CAPITAL LETTER O WITH CIRCUMFLEX AND DOT BELOW"),
  (0x1ED9, "0LATIN SMALL LETTER O WITH CIRCUMFLEX AND DOT BELOW|1CAPITAL LETTER O WITH HORN AND ACUTE|1SMALL LETTER O WITH HORN AND ACUTE"),
  (0x1EDC, "0LATIN CAPITAL LETTER O WITH HORN AND GRAVE|1SMALL LETTER O WITH HORN AND GRAVE|1CAPITAL LETTER O WITH HORN AND HOOK ABOVE"),
  (0x1EDF, "0LATIN SMALL LETTER O WITH HORN AND HOOK ABOVE|1CAPITAL LETTER O WITH HORN AND TILDE|1SMALL LETTER O WITH HORN AND TILDE"),
  (0x1EE2, "0LATIN CAPITAL LETTER O WITH HORN AND DOT BELOW|1SMALL LETTER O WITH HORN AND DOT BELOW|1CAPITAL LETTER U WITH DOT BELOW"),
  (0x1EE5, "0LATIN SMALL LETTER U WITH DOT BELOW|1CAPITAL LETTER U WITH HOOK ABOVE|1SMALL LETTER U WITH HOOK ABOVE|1CAPITAL LETTER U WITH HORN AND ACUTE"),
  (0x1EE9, "0LATIN SMALL LETTER U WITH HORN AND ACUTE|1CAPITAL LETTER U WITH HORN AND GRAVE|1SMALL LETTER U WITH HORN AND GRAVE"),
  (0x1EEC, "0LATIN CAPITAL LETTER U WITH HORN AND HOOK ABOVE|1SMALL LETTER U WITH HORN AND HOOK ABOVE|1CAPITAL LETTER U WITH HORN AND TILDE"),
  (0x1EEF, "0LATIN SMALL LETTER U WITH HORN AND TILDE|1CAPITAL LETTER U WITH HORN AND DOT BELOW|1SMALL LETTER U WITH HORN AND DOT BELOW"),
  (0x1EF2, "0LATIN CAPITAL LETTER Y WITH GRAVE|1SMALL LETTER Y WITH GRAVE|1CAPITAL LETTER Y WITH DOT BELOW|1SMALL LETTER Y WITH DOT BELOW"),
  (0x1EF6, "0LATIN CAPITAL LETTER Y WITH HOOK ABOVE|1SMALL LETTER Y WITH HOOK ABOVE|1CAPITAL LETTER Y WITH TILDE|1SMALL LETTER Y WITH TILDE"),
  (0x1EFA, "0LATIN CAPITAL LETTER MIDDLE-WELSH LL|1SMALL LETTER MIDDLE-WELSH LL|1CAPITAL LETTER MIDDLE-WELSH V|1SMALL LETTER MIDDLE-WELSH V"),
  (0x1EFE, "0LATIN CAPITAL LETTER Y WITH LOOP|1SMALL LETTER Y WITH LOOP|0GREEK SMALL LETTER ALPHA WITH PSILI|5DASIA|5PSILI AND VARIA|5DASIA AND VARIA"),
  (0x1F04, "0GREEK SMALL LETTER ALPHA WITH PSILI AND OXIA|5DASIA AND OXIA|5PSILI AND PERISPOMENI|5DASIA AND PERISPOMENI|1CAPITAL LETTER ALPHA WITH PSILI|5DASIA"),
  (0x1F0A, "0GREEK CAPITAL LETTER ALPHA WITH PSILI AND VARIA|5DASIA AND VARIA|5PSILI AND OXIA|5DASIA AND OXIA|5PSILI AND PERISPOMENI|5DASIA AND PERISPOMENI"),
  (0x1F10, "0GREEK SMALL LETTER EPSILON WITH PSILI|5DASIA|5PSILI AND VARIA|5DASIA AND VARIA|5PSILI AND OXIA|5DASIA AND OXIA"),
  (0x1F18, "0GREEK CAPITAL LETTER EPSILON WITH PSILI|5DASIA|5PSILI AND VARIA|5DASIA AND VARIA|5PSILI AND OXIA|5DASIA AND OXIA"),
  (0x1F20, "0GREEK SMALL LETTER ETA WITH PSILI|5DASIA|5PSILI AND VARIA|5DASIA AND VARIA|5PSILI AND OXIA|5DASIA AND OXIA|5PSILI AND PERISPOMENI"),
  (0x1F27, "0GREEK SMALL LETTER ETA WITH DASIA AND PERISPOMENI|1CAPITAL LETTER ETA WITH PSILI|5DASIA|5PSILI AND VARIA|5DASIA AND VARIA|5PSILI AND OXIA"),
  (0x1F2D, "0GREEK CAPITAL LETTER ETA WITH DASIA AND OXIA|5PSILI AND PERISPOMENI|5DASIA AND PERISPOMENI|1SMALL LETTER IOTA WITH PSILI|5DASIA|5PSILI AND VARIA"),
  (0x1F33, "0GREEK SMALL LETTER IOTA WITH DASIA AND VARIA|5PSILI AND OXIA|5DASIA AND OXIA|5PSILI AND PERISPOMENI|5DASIA AND PERISPOMENI"),
  (0x1F38, "0GREEK CAPITAL LETTER IOTA WITH PSILI|5DASIA|5PSILI AND VARIA|5DASIA AND VARIA|5PSILI AND OXIA|5DASIA AND OXIA|5PSILI AND PERISPOMENI"),
  (0x1F3F, "0GREEK CAPITAL LETTER IOTA WITH DASIA AND PERISPOMENI|1SMALL LETTER OMICRON WITH PSILI|5DASIA|5PSILI AND VARIA|5DASIA AND VARIA|5PSILI AND OXIA"),
  (0x1F45, "0GREEK SMALL LETTER OMICRON WITH DASIA AND OXIA"),
  (0x1F48, "0GREEK CAPITAL LETTER OMICRON WITH PSILI|5DASIA|5PSILI AND VARIA|5DASIA AND VARIA|5PSILI AND OXIA|5DASIA AND OXIA"),
  (0x1F50, "0GREEK SMALL LETTER UPSILON WITH PSILI|5DASIA|5PSILI AND VARIA|5DASIA AND VARIA|5PSILI AND OXIA|5DASIA AND OXIA|5PSILI AND PERISPOMENI"),
  (0x1F57, "0GREEK SMALL LETTER UPSILON WITH DASIA AND PERISPOMENI"),
  (0x1F59, "0GREEK CAPITAL LETTER UPSILON WITH DASIA"),
  (0x1F5B, "0GREEK CAPITAL LETTER UPSILON WITH DASIA AND VARIA"),
  (0x1F5D, "0GREEK CAPITAL LETTER UPSILON WITH DASIA AND OXIA"),
  (0x1F5F, "0GREEK CAPITAL LETTER UPSILON WITH DASIA AND PERISPOMENI|1SMALL LETTER OMEGA WITH PSILI|5DASIA|5PSILI AND VARIA|5DASIA AND VARIA|5PSILI AND OXIA"),
  (0x1F65, "0GREEK SMALL LETTER OMEGA WITH DASIA AND OXIA|5PSILI AND PERISPOMENI|5DASIA AND PERISPOMENI|1CAPITAL LETTER OMEGA WITH PSILI|5DASIA|5PSILI AND VARIA"),
  (0x1F6B, "0GREEK CAPITAL LETTER OMEGA WITH DASIA AND VARIA|5PSILI AND OXIA|5DASIA AND OXIA|5PSILI AND PERISPOMENI|5DASIA AND PERISPOMENI"),
  (0x1F70, "0GREEK SMALL LETTER ALPHA WITH VARIA|5OXIA|3EPSILON WITH VARIA|5OXIA|3ETA WITH VARIA|5OXIA|3IOTA WITH VARIA|5OXIA|3OMICRON WITH VARIA|5OXIA"),
  (0x1F7A, "0GREEK SMALL LETTER UPSILON WITH VARIA|5OXIA|3OMEGA WITH VARIA|5OXIA"),
  (0x1F80, "0GREEK SMALL LETTER ALPHA WITH PSILI AND YPOGEGRAMMENI|5DASIA AND YPOGEGRAMMENI|5PSILI AND VARIA AND YPOGEGRAMMENI|5DASIA AND VARIA AND YPOGEGRAMMENI"),
  (0x1F84, "0GREEK SMALL LETTER ALPHA WITH PSILI AND OXIA AND YPOGEGRAMMENI|5DASIA AND OXIA AND YPOGEGRAMMENI|5PSILI AND PERISPOMENI AND YPOGEGRAMMENI"),
  (0x1F87, "0GREEK SMALL LETTER ALPHA WITH DASIA AND PERISPOMENI AND YPOGEGRAMMENI|1CAPITAL LETTER ALPHA WITH PSILI AND PROSGEGRAMMENI|5DASIA AND PROSGEGRAMMENI"),
  (0x1F8A, "0GREEK CAPITAL LETTER ALPHA WITH PSILI AND VARIA AND PROSGEGRAMMENI|5DASIA AND VARIA AND PROSGEGRAMMENI|5PSILI AND OXIA AND PROSGEGRAMMENI"),
  (0x1F8D, "0GREEK CAPITAL LETTER ALPHA WITH DASIA AND OXIA AND PROSGEGRAMMENI|5PSILI AND PERISPOMENI AND PROSGEGRAMMENI|5DASIA AND PERISPOMENI AND PROSGEGRAMMENI"),
  (0x1F90, "0GREEK SMALL LETTER ETA WITH PSILI AND YPOGEGRAMMENI|5DASIA AND YPOGEGRAMMENI|5PSILI AND VARIA AND YPOGEGRAMMENI|5DASIA AND VARIA AND YPOGEGRAMMENI"),
  (0x1F94, "0GREEK SMALL LETTER ETA WITH PSILI AND OXIA AND YPOGEGRAMMENI|5DASIA AND OXIA AND YPOGEGRAMMENI|5PSILI AND PERISPOMENI AND YPOGEGRAMMENI"),
  (0x1F97, "0GREEK SMALL LETTER ETA WITH DASIA AND PERISPOMENI AND YPOGEGRAMMENI|1CAPITAL LETTER ETA WITH PSILI AND PROSGEGRAMMENI|5DASIA AND PROSGEGRAMMENI"),
  (0x1F9A, "0GREEK CAPITAL LETTER ETA WITH PSILI AND VARIA AND PROSGEGRAMMENI|5DASIA AND VARIA AND PROSGEGRAMMENI|5PSILI AND OXIA AND PROSGEGRAMMENI"),
  (0x1F9D, "0GREEK CAPITAL LETTER ETA WITH DASIA AND OXIA AND PROSGEGRAMMENI|5PSILI AND PERISPOMENI AND PROSGEGRAMMENI|5DASIA AND PERISPOMENI AND PROSGEGRAMMENI"),
  (0x1FA0, "0GREEK SMALL LETTER OMEGA WITH PSILI AND YPOGEGRAMMENI|5DASIA AND YPOGEGRAMMENI|5PSILI AND VARIA AND YPOGEGRAMMENI|5DASIA AND VARIA AND YPOGEGRAMMENI"),
  (0x1FA4, "0GREEK SMALL LETTER OMEGA WITH PSILI AND OXIA AND YPOGEGRAMMENI|5DASIA AND OXIA AND YPOGEGRAMMENI|5PSILI AND PERISPOMENI AND YPOGEGRAMMENI"),
  (0x1FA7, "0GREEK SMALL LETTER OMEGA WITH DASIA AND PERISPOMENI AND YPOGEGRAMMENI|1CAPITAL LETTER OMEGA WITH PSILI AND PROSGEGRAMMENI|5DASIA AND PROSGEGRAMMENI"),
  (0x1FAA, "0GREEK CAPITAL LETTER OMEGA WITH PSILI AND VARIA AND PROSGEGRAMMENI|5DASIA AND VARIA AND PROSGEGRAMMENI|5PSILI AND OXIA AND PROSGEGRAMMENI"),
  (0x1FAD, "0GREEK CAPITAL LETTER OMEGA WITH DASIA AND OXIA AND PROSGEGRAMMENI|5PSILI AND PERISPOMENI AND PROSGEGRAMMENI|5DASIA AND PERISPOMENI AND PROSGEGRAMMENI"),
  (0x1FB0, "0GREEK SMALL LETTER ALPHA WITH VRACHY|5MACRON|5VARIA AND YPOGEGRAMMENI|5YPOGEGRAMMENI|5OXIA AND YPOGEGRAMMENI"),
  (0x1FB6, "0GREEK SMALL LETTER ALPHA WITH PERISPOMENI|6AND YPOGEGRAMMENI|1CAPITAL LETTER ALPHA WITH VRACHY|5MACRON|5VARIA|5OXIA|5PROSGEGRAMMENI|1KORONIS"),
  (0x1FBE, "0GREEK PROSGEGRAMMENI|1PSILI|1PERISPOMENI|1DIALYTIKA AND PERISPOMENI|1SMALL LETTER ETA WITH VARIA AND YPOGEGRAMMENI|5YPOGEGRAMMENI"),
  (0x1FC4, "0GREEK SMALL LETTER ETA WITH OXIA AND YPOGEGRAMMENI"),
  (0x1FC6, "0GREEK SMALL LETTER ETA WITH PERISPOMENI|6AND YPOGEGRAMMENI|1CAPITAL LETTER EPSILON WITH VARIA|5OXIA|3ETA WITH VARIA|5OXIA|5PROSGEGRAMMENI"),
  (0x1FCD, "0GREEK PSILI AND VARIA|3OXIA|3PERISPOMENI|1SMALL LETTER IOTA WITH VRACHY|5MACRON|5DIALYTIKA AND VARIA|7OXIA"),
  (0x1FD6, "0GREEK SMALL LETTER IOTA WITH PERISPOMENI|5DIALYTIKA AND PERISPOMENI|1CAPITAL LETTER IOTA WITH VRACHY|5MACRON|5VARIA|5OXIA"),
  (0x1FDD, "0GREEK DASIA AND VARIA|3OXIA|3PERISPOMENI|1SMALL LETTER UPSILON WITH VRACHY|5MACRON|5DIALYTIKA AND VARIA|7OXIA|3RHO WITH PSILI|5DASIA"),
  (0x1FE6, "0GREEK SMALL LETTER UPSILON WITH PERISPOMENI|5DIALYTIKA AND PERISPOMENI|1CAPITAL LETTER UPSILON WITH VRACHY|5MACRON|5VARIA|5OXIA|3RHO WITH DASIA"),
  (0x1FED, "0GREEK DIALYTIKA AND VARIA|3OXIA|1VARIA"),
  (0x1FF2, "0GREEK SMALL LETTER OMEGA WITH VARIA AND YPOGEGRAMMENI|5YPOGEGRAMMENI|5OXIA AND YPOGEGRAMMENI"),
  (0x1FF6, "0GREEK SMALL LETTER OMEGA WITH PERISPOMENI|6AND YPOGEGRAMMENI|1CAPITAL LETTER OMICRON WITH VARIA|5OXIA|3OMEGA WITH VARIA|5OXIA|5PROSGEGRAMMENI|1OXIA"),
  (0x1FFE, "0GREEK DASIA"),
  (0x2000, "0EN QUAD|0EM QUAD|0EN SPACE|0EM SPACE|0THREE-PER-EM SPACE|0FOUR-PER-EM SPACE|0SIX-PER-EM SPACE|0FIGURE SPACE|0PUNCTUATION SPACE|0THIN SPACE"),
  (0x200A, "0HAIR SPACE|0ZERO WIDTH SPACE|2NON-JOINER|2JOINER|0LEFT-TO-RIGHT MARK|0RIGHT-TO-LEFT MARK|0HYPHEN|0NON-BREAKING HYPHEN|0FIGURE DASH|0EN DASH|0EM DASH"),
  (0x2015, "0HORIZONTAL BAR|0DOUBLE VERTICAL LINE|1LOW LINE|0LEFT SINGLE QUOTATION MARK|0RIGHT SINGLE QUOTATION MARK|0SINGLE LOW-9 QUOTATION MARK"),
  (0x201B, "0SINGLE HIGH-REVERSED-9 QUOTATION MARK|0LEFT DOUBLE QUOTATION MARK|0RIGHT DOUBLE QUOTATION MARK|0DOUBLE LOW-9 QUOTATION MARK"),
  (0x201F, "0DOUBLE HIGH-REVERSED-9 QUOTATION MARK|0DAGGER|0DOUBLE DAGGER|0BULLET|0TRIANGULAR BULLET|0ONE DOT LEADER|0TWO DOT LEADER|0HORIZONTAL ELLIPSIS"),
  (0x2027, "0HYPHENATION POINT|0LINE SEPARATOR|0PARAGRAPH SEPARATOR|0LEFT-TO-RIGHT EMBEDDING|0RIGHT-TO-LEFT EMBEDDING|0POP DIRECTIONAL FORMATTING"),
  (0x202D, "0LEFT-TO-RIGHT OVERRIDE|0RIGHT-TO-LEFT OVERRIDE|0NARROW NO-BREAK SPACE|0PER MILLE SIGN|1TEN THOUSAND SIGN|0PRIME|0DOUBLE PRIME|0TRIPLE PRIME"),
  (0x2035, "0REVERSED PRIME|1DOUBLE PRIME|1TRIPLE PRIME|0CARET|0SINGLE LEFT-POINTING ANGLE QUOTATION MARK|1RIGHT-POINTING ANGLE QUOTATION MARK|0REFERENCE MARK"),
  (0x203C, "0DOUBLE EXCLAMATION MARK|0INTERROBANG|0OVERLINE|0UNDERTIE|0CHARACTER TIE|0CARET INSERTION POINT|0ASTERISM|0HYPHEN BULLET|0FRACTION SLASH"),
  (0x2045, "0LEFT SQUARE BRACKET WITH QUILL|0RIGHT SQUARE BRACKET WITH QUILL|0DOUBLE QUESTION MARK|0QUESTION EXCLAMATION MARK|0EXCLAMATION QUESTION MARK"),
  (0x204A, "0TIRONIAN SIGN ET|0REVERSED PILCROW SIGN|0BLACK LEFTWARDS BULLET|1RIGHTWARDS BULLET|0LOW ASTERISK|0REVERSED SEMICOLON|0CLOSE UP"),
  (0x2051, "0TWO ASTERISKS ALIGNED VERTICALLY|0COMMERCIAL MINUS SIGN|0SWUNG DASH|0INVERTED UNDERTIE|0FLOWER PUNCTUATION MARK|0THREE DOT PUNCTUATION"),
  (0x2057, "0QUADRUPLE PRIME|0FOUR DOT PUNCTUATION|0FIVE DOT PUNCTUATION|0TWO DOT PUNCTUATION|0FOUR DOT MARK|0DOTTED CROSS|0TRICOLON|0VERTICAL FOUR DOTS"),
  (0x205F, "0MEDIUM MATHEMATICAL SPACE|0WORD JOINER|0FUNCTION APPLICATION|0INVISIBLE TIMES|1SEPARATOR|1PLUS"),
  (0x2066, "0LEFT-TO-RIGHT ISOLATE|0RIGHT-TO-LEFT ISOLATE|0FIRST STRONG ISOLATE|0POP DIRECTIONAL ISOLATE|0INHIBIT SYMMETRIC SWAPPING|0ACTIVATE SYMMETRIC SWAPPING"),
  (0x206C, "0INHIBIT ARABIC FORM SHAPING|0ACTIVATE ARABIC FORM SHAPING|0NATIONAL DIGIT SHAPES|0NOMINAL DIGIT SHAPES|0SUPERSCRIPT ZERO|1LATIN SMALL LETTER I"),
  (0x2074, "0SUPERSCRIPT FOUR|1FIVE|1SIX|1SEVEN|1EIGHT|1NINE|1PLUS SIGN|1MINUS|1EQUALS SIGN|1LEFT PARENTHESIS|1RIGHT PARENTHESIS|1LATIN SMALL LETTER N"),
  (0x2080, "0SUBSCRIPT ZERO|1ONE|1TWO|1THREE|1FOUR|1FIVE|1SIX|1SEVEN|1EIGHT|1NINE|1PLUS SIGN|1MINUS|1EQUALS SIGN|1LEFT PARENTHESIS|1RIGHT PARENTHESIS"),
  (0x2090, "0LATIN SUBSCRIPT SMALL LETTER A|4E|4O|4X|4SCHWA|4H|4K|4L|4M|4N|4P|4S|4T"),
  (0x20A0, "0EURO-CURRENCY SIGN|0COLON SIGN|0CRUZEIRO SIGN|0FRENCH FRANC SIGN|0LIRA SIGN|0MILL SIGN|0NAIRA SIGN|0PESETA SIGN|0RUPEE SIGN|0WON SIGN"),
  (0x20AA, "0NEW SHEQEL SIGN|0DONG SIGN|0EURO SIGN|0KIP SIGN|0TUGRIK SIGN|0DRACHMA SIGN|0GERMAN PENNY SIGN|0PESO SIGN|0GUARANI SIGN|0AUSTRAL SIGN|0HRYVNIA SIGN"),
  (0x20B5, "0CEDI SIGN|0LIVRE TOURNOIS SIGN|0SPESMILO SIGN|0TENGE SIGN|0INDIAN RUPEE SIGN|0TURKISH LIRA SIGN|0NORDIC MARK SIGN|0MANAT SIGN|0RUBLE SIGN|0LARI SIGN"),
  (0x20BF, "0BITCOIN SIGN|0SOM SIGN"),
  (0x20D0, "0COMBINING LEFT HARPOON ABOVE|1RIGHT HARPOON ABOVE|1LONG VERTICAL LINE OVERLAY|1SHORT VERTICAL LINE OVERLAY|1ANTICLOCKWISE ARROW ABOVE"),
  (0x20D5, "0COMBINING CLOCKWISE ARROW ABOVE|1LEFT ARROW ABOVE|1RIGHT ARROW ABOVE|1RING OVERLAY|1CLOCKWISE RING OVERLAY|1ANTICLOCKWISE RING OVERLAY"),
  (0x20DB, "0COMBINING THREE DOTS ABOVE|1FOUR DOTS ABOVE|1ENCLOSING CIRCLE|2SQUARE|2DIAMOND|2CIRCLE BACKSLASH|1LEFT RIGHT ARROW ABOVE|1ENCLOSING SCREEN|2KEYCAP"),
  (0x20E4, "0COMBINING ENCLOSING UPWARD POINTING TRIANGLE|1REVERSE SOLIDUS OVERLAY|1DOUBLE VERTICAL STROKE OVERLAY|1ANNUITY SYMBOL|1TRIPLE UNDERDOT"),
  (0x20E9, "0COMBINING WIDE BRIDGE ABOVE|1LEFTWARDS ARROW OVERLAY|1LONG DOUBLE SOLIDUS OVERLAY|1RIGHTWARDS HARPOON WITH BARB DOWNWARDS"),
  (0x20ED, "0COMBINING LEFTWARDS HARPOON WITH BARB DOWNWARDS|1LEFT ARROW BELOW|1RIGHT ARROW BELOW|1ASTERISK ABOVE"),
  (0x2100, "0ACCOUNT OF|0ADDRESSED TO THE SUBJECT|0DOUBLE-STRUCK CAPITAL C|0DEGREE CELSIUS|0CENTRE LINE SYMBOL|0CARE OF|0CADA UNA|0EULER CONSTANT|0SCRUPLE"),
  (0x2109, "0DEGREE FAHRENHEIT|0SCRIPT SMALL G|1CAPITAL H|0BLACK-LETTER CAPITAL H|0DOUBLE-STRUCK CAPITAL H|0PLANCK CONSTANT|2OVER TWO PI|0SCRIPT CAPITAL I"),
  (0x2111, "0BLACK-LETTER CAPITAL I|0SCRIPT CAPITAL L|1SMALL L|0L B BAR SYMBOL|0DOUBLE-STRUCK CAPITAL N|0NUMERO SIGN|0SOUND RECORDING COPYRIGHT|0SCRIPT CAPITAL P"),
  (0x2119, "0DOUBLE-STRUCK CAPITAL P|2Q|0SCRIPT CAPITAL R|0BLACK-LETTER CAPITAL R|0DOUBLE-STRUCK CAPITAL R|0PRESCRIPTION TAKE|0RESPONSE|0SERVICE MARK"),
  (0x2121, "0TELEPHONE SIGN|0TRADE MARK SIGN|0VERSICLE|0DOUBLE-STRUCK CAPITAL Z|0OUNCE SIGN|0OHM SIGN|0INVERTED OHM SIGN|0BLACK-LETTER CAPITAL Z"),
  (0x2129, "0TURNED GREEK SMALL LETTER IOTA|0KELVIN SIGN|0ANGSTROM SIGN|0SCRIPT CAPITAL B|0BLACK-LETTER CAPITAL C|0ESTIMATED SYMBOL|0SCRIPT SMALL E|1CAPITAL E|2F"),
  (0x2132, "0TURNED CAPITAL F|0SCRIPT CAPITAL M|1SMALL O|0ALEF SYMBOL|0BET SYMBOL|0GIMEL SYMBOL|0DALET SYMBOL|0INFORMATION SOURCE|0ROTATED CAPITAL Q"),
  (0x213B, "0FACSIMILE SIGN|0DOUBLE-STRUCK SMALL PI|2GAMMA|1CAPITAL GAMMA|2PI|1N-ARY SUMMATION|0TURNED SANS-SERIF CAPITAL G|3L|0REVERSED SANS-SERIF CAPITAL L"),
  (0x2144, "0TURNED SANS-SERIF CAPITAL Y|0DOUBLE-STRUCK ITALIC CAPITAL D|2SMALL D|3E|3I|3J|0PROPERTY LINE|0TURNED AMPERSAND|0PER SIGN|0AKTIESELSKAB"),
  (0x214E, "0TURNED SMALL F|0SYMBOL FOR SAMARITAN SOURCE|0VULGAR FRACTION ONE SEVENTH|3NINTH|3TENTH|3THIRD|2TWO THIRDS|2ONE FIFTH|2TWO FIFTHS|2THREE FIFTHS"),
  (0x2158, "0VULGAR FRACTION FOUR FIFTHS|2ONE SIXTH|2FIVE SIXTHS|2ONE EIGHTH|2THREE EIGHTHS|2FIVE EIGHTHS|2SEVEN EIGHTHS|0FRACTION NUMERATOR ONE"),
  (0x2160, "0ROMAN NUMERAL ONE|2TWO|2THREE|2FOUR|2FIVE|2SIX|2SEVEN|2EIGHT|2NINE|2TEN|2ELEVEN|2TWELVE|2FIFTY|2ONE HUNDRED|2FIVE HUNDRED|2ONE THOUSAND"),
  (0x2170, "0SMALL ROMAN NUMERAL ONE|3TWO|3THREE|3FOUR|3FIVE|3SIX|3SEVEN|3EIGHT|3NINE|3TEN|3ELEVEN|3TWELVE|3FIFTY|3ONE HUNDRED|3FIVE HUNDRED|3ONE THOUSAND"),
  (0x2180, "0ROMAN NUMERAL ONE THOUSAND C D|2FIVE THOUSAND|2TEN THOUSAND|2REVERSED ONE HUNDRED|0LATIN SMALL LETTER REVERSED C|0ROMAN NUMERAL SIX LATE FORM"),
  (0x2186, "0ROMAN NUMERAL FIFTY EARLY FORM|3THOUSAND|2ONE HUNDRED THOUSAND|0VULGAR FRACTION ZERO THIRDS|0TURNED DIGIT TWO|2THREE"),
  (0x2190, "0LEFTWARDS ARROW|0UPWARDS ARROW|0RIGHTWARDS ARROW|0DOWNWARDS ARROW|0LEFT RIGHT ARROW|0UP DOWN ARROW|0NORTH WEST ARROW|1EAST ARROW|0SOUTH EAST ARROW"),
  (0x2199, "0SOUTH WEST ARROW|0LEFTWARDS ARROW WITH STROKE|0RIGHTWARDS ARROW WITH STROKE|0LEFTWARDS WAVE ARROW|0RIGHTWARDS WAVE ARROW|0LEFTWARDS TWO HEADED ARROW"),
  (0x219F, "0UPWARDS TWO HEADED ARROW|0RIGHTWARDS TWO HEADED ARROW|0DOWNWARDS TWO HEADED ARROW|0LEFTWARDS ARROW WITH TAIL|0RIGHTWARDS ARROW WITH TAIL"),
  (0x21A4, "0LEFTWARDS ARROW FROM BAR|0UPWARDS ARROW FROM BAR|0RIGHTWARDS ARROW FROM BAR|0DOWNWARDS ARROW FROM BAR|0UP DOWN ARROW WITH BASE"),
  (0x21A9, "0LEFTWARDS ARROW WITH HOOK|0RIGHTWARDS ARROW WITH HOOK|0LEFTWARDS ARROW WITH LOOP|0RIGHTWARDS ARROW WITH LOOP|0LEFT RIGHT WAVE ARROW"),
  (0x21AE, "0LEFT RIGHT ARROW WITH STROKE|0DOWNWARDS ZIGZAG ARROW|0UPWARDS ARROW WITH TIP LEFTWARDS|4RIGHTWARDS|0DOWNWARDS ARROW WITH TIP LEFTWARDS|4RIGHTWARDS"),
  (0x21B4, "0RIGHTWARDS ARROW WITH CORNER DOWNWARDS|0DOWNWARDS ARROW WITH CORNER LEFTWARDS|0ANTICLOCKWISE TOP SEMICIRCLE ARROW|0CLOCKWISE TOP SEMICIRCLE ARROW"),
  (0x21B8, "0NORTH WEST ARROW TO LONG BAR|0LEFTWARDS ARROW TO BAR OVER RIGHTWARDS ARROW TO BAR|0ANTICLOCKWISE OPEN CIRCLE ARROW|0CLOCKWISE OPEN CIRCLE ARROW"),
  (0x21BC, "0LEFTWARDS HARPOON WITH BARB UPWARDS|4DOWNWARDS|0UPWARDS HARPOON WITH BARB RIGHTWARDS|4LEFTWARDS|0RIGHTWARDS HARPOON WITH BARB UPWARDS|4DOWNWARDS"),
  (0x21C2, "0DOWNWARDS HARPOON WITH BARB RIGHTWARDS|4LEFTWARDS|0RIGHTWARDS ARROW OVER LEFTWARDS ARROW|0UPWARDS ARROW LEFTWARDS OF DOWNWARDS ARROW"),
  (0x21C6, "0LEFTWARDS ARROW OVER RIGHTWARDS ARROW|1PAIRED ARROWS|0UPWARDS PAIRED ARROWS|0RIGHTWARDS PAIRED ARROWS|0DOWNWARDS PAIRED ARROWS"),
  (0x21CB, "0LEFTWARDS HARPOON OVER RIGHTWARDS HARPOON|0RIGHTWARDS HARPOON OVER LEFTWARDS HARPOON|0LEFTWARDS DOUBLE ARROW WITH STROKE"),
  (0x21CE, "0LEFT RIGHT DOUBLE ARROW WITH STROKE|0RIGHTWARDS DOUBLE ARROW WITH STROKE|0LEFTWARDS DOUBLE ARROW|0UPWARDS DOUBLE ARROW|0RIGHTWARDS DOUBLE ARROW"),
  (0x21D3, "0DOWNWARDS DOUBLE ARROW|0LEFT RIGHT DOUBLE ARROW|0UP DOWN DOUBLE ARROW|0NORTH WEST DOUBLE ARROW|1EAST DOUBLE ARROW|0SOUTH EAST DOUBLE ARROW"),
  (0x21D9, "0SOUTH WEST DOUBLE ARROW|0LEFTWARDS TRIPLE ARROW|0RIGHTWARDS TRIPLE ARROW|0LEFTWARDS SQUIGGLE ARROW|0RIGHTWARDS SQUIGGLE ARROW"),
  (0x21DE, "0UPWARDS ARROW WITH DOUBLE STROKE|0DOWNWARDS ARROW WITH DOUBLE STROKE|0LEFTWARDS DASHED ARROW|0UPWARDS DASHED ARROW|0RIGHTWARDS DASHED ARROW"),
  (0x21E3, "0DOWNWARDS DASHED ARROW|0LEFTWARDS ARROW TO BAR|0RIGHTWARDS ARROW TO BAR|0LEFTWARDS WHITE ARROW|0UPWARDS WHITE ARROW|0RIGHTWARDS WHITE ARROW"),
  (0x21E9, "0DOWNWARDS WHITE ARROW|0UPWARDS WHITE ARROW FROM BAR|3ON PEDESTAL|5WITH HORIZONTAL BAR|6VERTICAL BAR|2DOUBLE ARROW|4ON PEDESTAL"),
  (0x21F0, "0RIGHTWARDS WHITE ARROW FROM WALL|0NORTH WEST ARROW TO CORNER|0SOUTH EAST ARROW TO CORNER|0UP DOWN WHITE ARROW|0RIGHT ARROW WITH SMALL CIRCLE"),
  (0x21F5, "0DOWNWARDS ARROW LEFTWARDS OF UPWARDS ARROW|0THREE RIGHTWARDS ARROWS|0LEFTWARDS ARROW WITH VERTICAL STROKE|0RIGHTWARDS ARROW WITH VERTICAL STROKE"),
  (0x21F9, "0LEFT RIGHT ARROW WITH VERTICAL STROKE|0LEFTWARDS ARROW WITH DOUBLE VERTICAL STROKE|0RIGHTWARDS ARROW WITH DOUBLE VERTICAL STROKE"),
  (0x21FC, "0LEFT RIGHT ARROW WITH DOUBLE VERTICAL STROKE|0LEFTWARDS OPEN-HEADED ARROW|0RIGHTWARDS OPEN-HEADED ARROW|0LEFT RIGHT OPEN-HEADED ARROW|0FOR ALL"),
  (0x2201, "0COMPLEMENT|0PARTIAL DIFFERENTIAL|0THERE EXISTS|1DOES NOT EXIST|0EMPTY SET|0INCREMENT|0NABLA|0ELEMENT OF|0NOT AN ELEMENT OF|0SMALL ELEMENT OF"),
  (0x220B, "0CONTAINS AS MEMBER|0DOES NOT CONTAIN AS MEMBER|0SMALL CONTAINS AS MEMBER|0END OF PROOF|0N-ARY PRODUCT|1COPRODUCT|1SUMMATION|0MINUS SIGN"),
  (0x2213, "0MINUS-OR-PLUS SIGN|0DOT PLUS|0DIVISION SLASH|0SET MINUS|0ASTERISK OPERATOR|0RING OPERATOR|0BULLET OPERATOR|0SQUARE ROOT|0CUBE ROOT|0FOURTH ROOT"),
  (0x221D, "0PROPORTIONAL TO|0INFINITY|0RIGHT ANGLE|0ANGLE|0MEASURED ANGLE|0SPHERICAL ANGLE|0DIVIDES|0DOES NOT DIVIDE|0PARALLEL TO|0NOT PARALLEL TO|0LOGICAL AND"),
  (0x2228, "0LOGICAL OR|0INTERSECTION|0UNION|0INTEGRAL|0DOUBLE INTEGRAL|0TRIPLE INTEGRAL|0CONTOUR INTEGRAL|0SURFACE INTEGRAL|0VOLUME INTEGRAL|0CLOCKWISE INTEGRAL"),
  (0x2232, "0CLOCKWISE CONTOUR INTEGRAL|0ANTICLOCKWISE CONTOUR INTEGRAL|0THEREFORE|0BECAUSE|0RATIO|0PROPORTION|0DOT MINUS|0EXCESS|0GEOMETRIC PROPORTION"),
  (0x223B, "0HOMOTHETIC|0TILDE OPERATOR|0REVERSED TILDE|0INVERTED LAZY S|0SINE WAVE|0WREATH PRODUCT|0NOT TILDE|0MINUS TILDE|0ASYMPTOTICALLY EQUAL TO"),
  (0x2244, "0NOT ASYMPTOTICALLY EQUAL TO|0APPROXIMATELY EQUAL TO|1BUT NOT ACTUALLY EQUAL TO|0NEITHER APPROXIMATELY NOR ACTUALLY EQUAL TO|0ALMOST EQUAL TO"),
  (0x2249, "0NOT ALMOST EQUAL TO|0ALMOST EQUAL OR EQUAL TO|0TRIPLE TILDE|0ALL EQUAL TO|0EQUIVALENT TO|0GEOMETRICALLY EQUIVALENT TO|0DIFFERENCE BETWEEN"),
  (0x2250, "0APPROACHES THE LIMIT|0GEOMETRICALLY EQUAL TO|0APPROXIMATELY EQUAL TO OR THE IMAGE OF|0IMAGE OF OR APPROXIMATELY EQUAL TO|0COLON EQUALS|0EQUALS COLON"),
  (0x2256, "0RING IN EQUAL TO|1EQUAL TO|0CORRESPONDS TO|0ESTIMATES|0EQUIANGULAR TO|0STAR EQUALS|0DELTA EQUAL TO|0EQUAL TO BY DEFINITION|0MEASURED BY"),
  (0x225F, "0QUESTIONED EQUAL TO|0NOT EQUAL TO|0IDENTICAL TO|0NOT IDENTICAL TO|0STRICTLY EQUIVALENT TO|0LESS-THAN OR EQUAL TO|0GREATER-THAN OR EQUAL TO"),
  (0x2266, "0LESS-THAN OVER EQUAL TO|0GREATER-THAN OVER EQUAL TO|0LESS-THAN BUT NOT EQUAL TO|0GREATER-THAN BUT NOT EQUAL TO|0MUCH LESS-THAN|1GREATER-THAN|0BETWEEN"),
  (0x226D, "0NOT EQUIVALENT TO|1LESS-THAN|1GREATER-THAN|0NEITHER LESS-THAN NOR EQUAL TO|1GREATER-THAN NOR EQUAL TO|0LESS-THAN OR EQUIVALENT TO"),
  (0x2273, "0GREATER-THAN OR EQUIVALENT TO|0NEITHER LESS-THAN NOR EQUIVALENT TO|1GREATER-THAN NOR EQUIVALENT TO|0LESS-THAN OR GREATER-THAN"),
  (0x2277, "0GREATER-THAN OR LESS-THAN|0NEITHER LESS-THAN NOR GREATER-THAN|1GREATER-THAN NOR LESS-THAN|0PRECEDES|0SUCCEEDS|0PRECEDES OR EQUAL TO"),
  (0x227D, "0SUCCEEDS OR EQUAL TO|0PRECEDES OR EQUIVALENT TO|0SUCCEEDS OR EQUIVALENT TO|0DOES NOT PRECEDE|2SUCCEED|0SUBSET OF|0SUPERSET OF|0NOT A SUBSET OF"),
  (0x2285, "0NOT A SUPERSET OF|0SUBSET OF OR EQUAL TO|0SUPERSET OF OR EQUAL TO|0NEITHER A SUBSET OF NOR EQUAL TO|2SUPERSET OF NOR EQUAL TO"),
  (0x228A, "0SUBSET OF WITH NOT EQUAL TO|0SUPERSET OF WITH NOT EQUAL TO|0MULTISET|1MULTIPLICATION|1UNION|0SQUARE IMAGE OF|1ORIGINAL OF|1IMAGE OF OR EQUAL TO"),
  (0x2292, "0SQUARE ORIGINAL OF OR EQUAL TO|1CAP|1CUP|0CIRCLED PLUS|1MINUS|1TIMES|1DIVISION SLASH|1DOT OPERATOR|1RING OPERATOR|1ASTERISK OPERATOR|1EQUALS|1DASH"),
  (0x229E, "0SQUARED PLUS|1MINUS|1TIMES|1DOT OPERATOR|0RIGHT TACK|0LEFT TACK|0DOWN TACK|0UP TACK|0ASSERTION|0MODELS|0TRUE|0FORCES"),
  (0x22AA, "0TRIPLE VERTICAL BAR RIGHT TURNSTILE|0DOUBLE VERTICAL BAR DOUBLE RIGHT TURNSTILE|0DOES NOT PROVE|0NOT TRUE|0DOES NOT FORCE"),
  (0x22AF, "0NEGATED DOUBLE VERTICAL BAR DOUBLE RIGHT TURNSTILE|0PRECEDES UNDER RELATION|0SUCCEEDS UNDER RELATION|0NORMAL SUBGROUP OF|0CONTAINS AS NORMAL SUBGROUP"),
  (0x22B4, "0NORMAL SUBGROUP OF OR EQUAL TO|0CONTAINS AS NORMAL SUBGROUP OR EQUAL TO|0ORIGINAL OF|0IMAGE OF|0MULTIMAP|0HERMITIAN CONJUGATE MATRIX|0INTERCALATE"),
  (0x22BB, "0XOR|0NAND|0NOR|0RIGHT ANGLE WITH ARC|1TRIANGLE|0N-ARY LOGICAL AND|2OR|1INTERSECTION|1UNION|0DIAMOND OPERATOR|0DOT OPERATOR|0STAR OPERATOR"),
  (0x22C7, "0DIVISION TIMES|0BOWTIE|0LEFT NORMAL FACTOR SEMIDIRECT PRODUCT|0RIGHT NORMAL FACTOR SEMIDIRECT PRODUCT|0LEFT SEMIDIRECT PRODUCT"),
  (0x22CC, "0RIGHT SEMIDIRECT PRODUCT|0REVERSED TILDE EQUALS|0CURLY LOGICAL OR|2AND|0DOUBLE SUBSET|1SUPERSET|1INTERSECTION|1UNION|0PITCHFORK"),
  (0x22D5, "0EQUAL AND PARALLEL TO|0LESS-THAN WITH DOT|0GREATER-THAN WITH DOT|0VERY MUCH LESS-THAN|2GREATER-THAN|0LESS-THAN EQUAL TO OR GREATER-THAN"),
  (0x22DB, "0GREATER-THAN EQUAL TO OR LESS-THAN|0EQUAL TO OR LESS-THAN|3GREATER-THAN|3PRECEDES|3SUCCEEDS|0DOES NOT PRECEDE OR EQUAL|2SUCCEED OR EQUAL"),
  (0x22E2, "0NOT SQUARE IMAGE OF OR EQUAL TO|2ORIGINAL OF OR EQUAL TO|0SQUARE IMAGE OF OR NOT EQUAL TO|1ORIGINAL OF OR NOT EQUAL TO"),
  (0x22E6, "0LESS-THAN BUT NOT EQUIVALENT TO|0GREATER-THAN BUT NOT EQUIVALENT TO|0PRECEDES BUT NOT EQUIVALENT TO|0SUCCEEDS BUT NOT EQUIVALENT TO"),
  (0x22EA, "0NOT NORMAL SUBGROUP OF|0DOES NOT CONTAIN AS NORMAL SUBGROUP|0NOT NORMAL SUBGROUP OF OR EQUAL TO|0DOES NOT CONTAIN AS NORMAL SUBGROUP OR EQUAL"),
  (0x22EE, "0VERTICAL ELLIPSIS|0MIDLINE HORIZONTAL ELLIPSIS|0UP RIGHT DIAGONAL ELLIPSIS|0DOWN RIGHT DIAGONAL ELLIPSIS|0ELEMENT OF WITH LONG HORIZONTAL STROKE"),
  (0x22F3, "0ELEMENT OF WITH VERTICAL BAR AT END OF HORIZONTAL STROKE|0SMALL ELEMENT OF WITH VERTICAL BAR AT END OF HORIZONTAL STROKE|0ELEMENT OF WITH DOT ABOVE"),
  (0x22F6, "0ELEMENT OF WITH OVERBAR|0SMALL ELEMENT OF WITH OVERBAR|0ELEMENT OF WITH UNDERBAR|3TWO HORIZONTAL STROKES|0CONTAINS WITH LONG HORIZONTAL STROKE"),
  (0x22FB, "0CONTAINS WITH VERTICAL BAR AT END OF HORIZONTAL STROKE|0SMALL CONTAINS WITH VERTICAL BAR AT END OF HORIZONTAL STROKE|0CONTAINS WITH OVERBAR"),
  (0x22FE, "0SMALL CONTAINS WITH OVERBAR|0Z NOTATION BAG MEMBERSHIP|0DIAMETER SIGN|0ELECTRIC ARROW|0HOUSE|0UP ARROWHEAD|0DOWN ARROWHEAD|0PROJECTIVE|0PERSPECTIVE"),
  (0x2307, "0WAVY LINE|0LEFT CEILING|0RIGHT CEILING|0LEFT FLOOR|0RIGHT FLOOR|0BOTTOM RIGHT CROP|1LEFT CROP|0TOP RIGHT CROP|1LEFT CROP|0REVERSED NOT SIGN"),
  (0x2311, "0SQUARE LOZENGE|0ARC|0SEGMENT|0SECTOR|0TELEPHONE RECORDER|0POSITION INDICATOR|0VIEWDATA SQUARE|0PLACE OF INTEREST SIGN|0TURNED NOT SIGN|0WATCH"),
  (0x231B, "0HOURGLASS|0TOP LEFT CORNER|1RIGHT CORNER|0BOTTOM LEFT CORNER|1RIGHT CORNER|0TOP HALF INTEGRAL|0BOTTOM HALF INTEGRAL|0FROWN|0SMILE"),
  (0x2324, "0UP ARROWHEAD BETWEEN TWO HORIZONTAL BARS|0OPTION KEY|0ERASE TO THE RIGHT|0X IN A RECTANGLE BOX|0KEYBOARD|0LEFT-POINTING ANGLE BRACKET"),
  (0x232A, "0RIGHT-POINTING ANGLE BRACKET|0ERASE TO THE LEFT|0BENZENE RING|0CYLINDRICITY|0ALL AROUND-PROFILE|0SYMMETRY|0TOTAL RUNOUT|0DIMENSION ORIGIN"),
  (0x2332, "0CONICAL TAPER|0SLOPE|0COUNTERBORE|0COUNTERSINK|0APL FUNCTIONAL SYMBOL I-BEAM|3SQUISH QUAD|3QUAD EQUAL|4DIVIDE|4DIAMOND|4JOT|4CIRCLE|3CIRCLE STILE"),
  (0x233E, "0APL FUNCTIONAL SYMBOL CIRCLE JOT|3SLASH BAR|3BACKSLASH BAR|3QUAD SLASH|4BACKSLASH|4LESS-THAN|4GREATER-THAN|3LEFTWARDS VANE|3RIGHTWARDS VANE"),
  (0x2347, "0APL FUNCTIONAL SYMBOL QUAD LEFTWARDS ARROW|4RIGHTWARDS ARROW|3CIRCLE BACKSLASH|3DOWN TACK UNDERBAR|3DELTA STILE|3QUAD DOWN CARET|4DELTA"),
  (0x234E, "0APL FUNCTIONAL SYMBOL DOWN TACK JOT|3UPWARDS VANE|3QUAD UPWARDS ARROW|3UP TACK OVERBAR|3DEL STILE|3QUAD UP CARET|4DEL|3UP TACK JOT|3DOWNWARDS VANE"),
  (0x2357, "0APL FUNCTIONAL SYMBOL QUAD DOWNWARDS ARROW|3QUOTE UNDERBAR|3DELTA UNDERBAR|3DIAMOND UNDERBAR|3JOT UNDERBAR|3CIRCLE UNDERBAR|3UP SHOE JOT|3QUOTE QUAD"),
  (0x235F, "0APL FUNCTIONAL SYMBOL CIRCLE STAR|3QUAD COLON|3UP TACK DIAERESIS|3DEL DIAERESIS|3STAR DIAERESIS|3JOT DIAERESIS|3CIRCLE DIAERESIS|3DOWN SHOE STILE"),
  (0x2367, "0APL FUNCTIONAL SYMBOL LEFT SHOE STILE|3TILDE DIAERESIS|3GREATER-THAN DIAERESIS|3COMMA BAR|3DEL TILDE|3ZILDE|3STILE TILDE|3SEMICOLON UNDERBAR"),
  (0x236F, "0APL FUNCTIONAL SYMBOL QUAD NOT EQUAL|4QUESTION|3DOWN CARET TILDE|3UP CARET TILDE|3IOTA|3RHO|3OMEGA|3ALPHA UNDERBAR|3EPSILON UNDERBAR|3IOTA UNDERBAR"),
  (0x2379, "0APL FUNCTIONAL SYMBOL OMEGA UNDERBAR|3ALPHA|0NOT CHECK MARK|0RIGHT ANGLE WITH DOWNWARDS ZIGZAG ARROW|0SHOULDERED OPEN BOX|0BELL SYMBOL"),
  (0x237F, "0VERTICAL LINE WITH MIDDLE DOT|0INSERTION SYMBOL|0CONTINUOUS UNDERLINE SYMBOL|0DISCONTINUOUS UNDERLINE SYMBOL|0EMPHASIS SYMBOL|0COMPOSITION SYMBOL"),
  (0x2385, "0WHITE SQUARE WITH CENTRE VERTICAL LINE|0ENTER SYMBOL|0ALTERNATIVE KEY SYMBOL|0HELM SYMBOL|0CIRCLED HORIZONTAL BAR WITH NOTCH|1TRIANGLE DOWN"),
  (0x238B, "0BROKEN CIRCLE WITH NORTHWEST ARROW|0UNDO SYMBOL|0MONOSTABLE SYMBOL|0HYSTERESIS SYMBOL|0OPEN-CIRCUIT-OUTPUT H-TYPE SYMBOL|1L-TYPE SYMBOL"),
  (0x2391, "0PASSIVE-PULL-DOWN-OUTPUT SYMBOL|0PASSIVE-PULL-UP-OUTPUT SYMBOL|0DIRECT CURRENT SYMBOL FORM TWO|0SOFTWARE-FUNCTION SYMBOL|0APL FUNCTIONAL SYMBOL QUAD"),
  (0x2396, "0DECIMAL SEPARATOR KEY SYMBOL|0PREVIOUS PAGE|0NEXT PAGE|0PRINT SCREEN SYMBOL|0CLEAR SCREEN SYMBOL|0LEFT PARENTHESIS UPPER HOOK|2EXTENSION|2LOWER HOOK"),
  (0x239E, "0RIGHT PARENTHESIS UPPER HOOK|2EXTENSION|2LOWER HOOK|0LEFT SQUARE BRACKET UPPER CORNER|3EXTENSION|3LOWER CORNER|0RIGHT SQUARE BRACKET UPPER CORNER"),
  (0x23A5, "0RIGHT SQUARE BRACKET EXTENSION|3LOWER CORNER|0LEFT CURLY BRACKET UPPER HOOK|3MIDDLE PIECE|3LOWER HOOK|0CURLY BRACKET EXTENSION"),
  (0x23AB, "0RIGHT CURLY BRACKET UPPER HOOK|3MIDDLE PIECE|3LOWER HOOK|0INTEGRAL EXTENSION|0HORIZONTAL LINE EXTENSION"),
  (0x23B0, "0UPPER LEFT OR LOWER RIGHT CURLY BRACKET SECTION|1RIGHT OR LOWER LEFT CURLY BRACKET SECTION|0SUMMATION TOP|1BOTTOM|0TOP SQUARE BRACKET"),
  (0x23B5, "0BOTTOM SQUARE BRACKET|3OVER TOP SQUARE BRACKET|0RADICAL SYMBOL BOTTOM|0LEFT VERTICAL BOX LINE|0RIGHT VERTICAL BOX LINE|0HORIZONTAL SCAN LINE-1"),
  (0x23BB, "0HORIZONTAL SCAN LINE-3|2LINE-7|2LINE-9|0DENTISTRY SYMBOL LIGHT VERTICAL AND TOP RIGHT|5BOTTOM RIGHT|4WITH CIRCLE|3DOWN AND HORIZONTAL WITH CIRCLE"),
  (0x23C2, "0DENTISTRY SYMBOL LIGHT UP AND HORIZONTAL WITH CIRCLE|3VERTICAL WITH TRIANGLE|3DOWN AND HORIZONTAL WITH TRIANGLE|3UP AND HORIZONTAL WITH TRIANGLE"),
  (0x23C6, "0DENTISTRY SYMBOL LIGHT VERTICAL AND WAVE|3DOWN AND HORIZONTAL WITH WAVE|3UP AND HORIZONTAL WITH WAVE|3DOWN AND HORIZONTAL|3UP AND HORIZONTAL"),
  (0x23CB, "0DENTISTRY SYMBOL LIGHT VERTICAL AND TOP LEFT|5BOTTOM LEFT|0SQUARE FOOT|0RETURN SYMBOL|0EJECT SYMBOL|0VERTICAL LINE EXTENSION|0METRICAL BREVE"),
  (0x23D2, "0METRICAL LONG OVER SHORT|1SHORT OVER LONG|1LONG OVER TWO SHORTS|1TWO SHORTS OVER LONG|3JOINED|1TRISEME|1TETRASEME|1PENTASEME|0EARTH GROUND|0FUSE"),
  (0x23DC, "0TOP PARENTHESIS|0BOTTOM PARENTHESIS|0TOP CURLY BRACKET|0BOTTOM CURLY BRACKET|0TOP TORTOISE SHELL BRACKET|0BOTTOM TORTOISE SHELL BRACKET"),
  (0x23E2, "0WHITE TRAPEZIUM|0BENZENE RING WITH CIRCLE|0STRAIGHTNESS|0FLATNESS|0AC CURRENT|0ELECTRICAL INTERSECTION|0DECIMAL EXPONENT SYMBOL"),
  (0x23E9, "0BLACK RIGHT-POINTING DOUBLE TRIANGLE|1LEFT-POINTING DOUBLE TRIANGLE|1UP-POINTING DOUBLE TRIANGLE|1DOWN-POINTING DOUBLE TRIANGLE"),
  (0x23ED, "0BLACK RIGHT-POINTING DOUBLE TRIANGLE WITH VERTICAL BAR|1LEFT-POINTING DOUBLE TRIANGLE WITH VERTICAL BAR"),
  (0x23EF, "0BLACK RIGHT-POINTING TRIANGLE WITH DOUBLE VERTICAL BAR|0ALARM CLOCK|0STOPWATCH|0TIMER CLOCK|0HOURGLASS WITH FLOWING SAND"),
  (0x23F4, "0BLACK MEDIUM LEFT-POINTING TRIANGLE|2RIGHT-POINTING TRIANGLE|2UP-POINTING TRIANGLE|2DOWN-POINTING TRIANGLE|0DOUBLE VERTICAL BAR"),
  (0x23F9, "0BLACK SQUARE FOR STOP|1CIRCLE FOR RECORD|0POWER SYMBOL|1ON-OFF SYMBOL|1ON SYMBOL|1SLEEP SYMBOL|0OBSERVER EYE SYMBOL|0SYMBOL FOR NULL"),
  (0x2401, "0SYMBOL FOR START OF HEADING|4TEXT|2END OF TEXT|4TRANSMISSION|2ENQUIRY|2ACKNOWLEDGE|2BELL|2BACKSPACE|2HORIZONTAL TABULATION|2LINE FEED"),
  (0x240B, "0SYMBOL FOR VERTICAL TABULATION|2FORM FEED|2CARRIAGE RETURN|2SHIFT OUT|3IN|2DATA LINK ESCAPE|2DEVICE CONTROL ONE|4TWO|4THREE|4FOUR"),
  (0x2415, "0SYMBOL FOR NEGATIVE ACKNOWLEDGE|2SYNCHRONOUS IDLE|2END OF TRANSMISSION BLOCK|2CANCEL|2END OF MEDIUM|2SUBSTITUTE|2ESCAPE|2FILE SEPARATOR"),
  (0x241D, "0SYMBOL FOR GROUP SEPARATOR|2RECORD SEPARATOR|2UNIT SEPARATOR|2SPACE|2DELETE|0BLANK SYMBOL|0OPEN BOX|0SYMBOL FOR NEWLINE|2DELETE FORM TWO"),
  (0x2426, "0SYMBOL FOR SUBSTITUTE FORM TWO"),
  (0x2440, "0OCR HOOK|1CHAIR|1FORK|1INVERTED FORK|1BELT BUCKLE|1BOW TIE|1BRANCH BANK IDENTIFICATION|1AMOUNT OF CHECK|1DASH|1CUSTOMER ACCOUNT NUMBER"),
  (0x244A, "0OCR DOUBLE BACKSLASH"),
  (0x2460, "0CIRCLED DIGIT ONE|2TWO|2THREE|2FOUR|2FIVE|2SIX|2SEVEN|2EIGHT|2NINE|1NUMBER TEN|2ELEVEN|2TWELVE|2THIRTEEN|2FOURTEEN|2FIFTEEN|2SIXTEEN|2SEVENTEEN"),
  (0x2471, "0CIRCLED NUMBER EIGHTEEN|2NINETEEN|2TWENTY|0PARENTHESIZED DIGIT ONE|2TWO|2THREE|2FOUR|2FIVE|2SIX|2SEVEN|2EIGHT|2NINE|1NUMBER TEN|2ELEVEN|2TWELVE"),
  (0x2480, "0PARENTHESIZED NUMBER THIRTEEN|2FOURTEEN|2FIFTEEN|2SIXTEEN|2SEVENTEEN|2EIGHTEEN|2NINETEEN|2TWENTY|0DIGIT ONE FULL STOP|1TWO FULL STOP|1THREE FULL STOP"),
  (0x248B, "0DIGIT FOUR FULL STOP|1FIVE FULL STOP|1SIX FULL STOP|1SEVEN FULL STOP|1EIGHT FULL STOP|1NINE FULL STOP|0NUMBER TEN FULL STOP|1ELEVEN FULL STOP"),
  (0x2493, "0NUMBER TWELVE FULL STOP|1THIRTEEN FULL STOP|1FOURTEEN FULL STOP|1FIFTEEN FULL STOP|1SIXTEEN FULL STOP|1SEVENTEEN FULL STOP|1EIGHTEEN FULL STOP"),
  (0x249A, "0NUMBER NINETEEN FULL STOP|1TWENTY FULL STOP|0PARENTHESIZED LATIN SMALL LETTER A|4B|4C|4D|4E|4F|4G|4H|4I|4J|4K|4L|4M|4N|4O|4P|4Q|4R|4S|4T|4U|4V|4W|4X"),
  (0x24B4, "0PARENTHESIZED LATIN SMALL LETTER Y|4Z|0CIRCLED LATIN CAPITAL LETTER A|4B|4C|4D|4E|4F|4G|4H|4I|4J|4K|4L|4M|4N|4O|4P|4Q|4R|4S|4T|4U|4V|4W|4X|4Y|4Z"),
  (0x24D0, "0CIRCLED LATIN SMALL LETTER A|4B|4C|4D|4E|4F|4G|4H|4I|4J|4K|4L|4M|4N|4O|4P|4Q|4R|4S|4T|4U|4V|4W|4X|4Y|4Z|1DIGIT ZERO|0NEGATIVE CIRCLED NUMBER ELEVEN"),
  (0x24EC, "0NEGATIVE CIRCLED NUMBER TWELVE|3THIRTEEN|3FOURTEEN|3FIFTEEN|3SIXTEEN|3SEVENTEEN|3EIGHTEEN|3NINETEEN|3TWENTY|0DOUBLE CIRCLED DIGIT ONE|3TWO|3THREE"),
  (0x24F8, "0DOUBLE CIRCLED DIGIT FOUR|3FIVE|3SIX|3SEVEN|3EIGHT|3NINE|2NUMBER TEN|0NEGATIVE CIRCLED DIGIT ZERO|0BOX DRAWINGS LIGHT HORIZONTAL|2HEAVY HORIZONTAL"),
  (0x2502, "0BOX DRAWINGS LIGHT VERTICAL|2HEAVY VERTICAL|2LIGHT TRIPLE DASH HORIZONTAL|2HEAVY TRIPLE DASH HORIZONTAL|2LIGHT TRIPLE DASH VERTICAL"),
  (0x2507, "0BOX DRAWINGS HEAVY TRIPLE DASH VERTICAL|2LIGHT QUADRUPLE DASH HORIZONTAL|2HEAVY QUADRUPLE DASH HORIZONTAL|2LIGHT QUADRUPLE DASH VERTICAL"),
  (0x250B, "0BOX DRAWINGS HEAVY QUADRUPLE DASH VERTICAL|2LIGHT DOWN AND RIGHT|2DOWN LIGHT AND RIGHT HEAVY|3HEAVY AND RIGHT LIGHT|2HEAVY DOWN AND RIGHT"),
  (0x2510, "0BOX DRAWINGS LIGHT DOWN AND LEFT|2DOWN LIGHT AND LEFT HEAVY|3HEAVY AND LEFT LIGHT|2HEAVY DOWN AND LEFT|2LIGHT UP AND RIGHT|2UP LIGHT AND RIGHT HEAVY"),
  (0x2516, "0BOX DRAWINGS UP HEAVY AND RIGHT LIGHT|2HEAVY UP AND RIGHT|2LIGHT UP AND LEFT|2UP LIGHT AND LEFT HEAVY|3HEAVY AND LEFT LIGHT|2HEAVY UP AND LEFT"),
  (0x251C, "0BOX DRAWINGS LIGHT VERTICAL AND RIGHT|2VERTICAL LIGHT AND RIGHT HEAVY|2UP HEAVY AND RIGHT DOWN LIGHT|2DOWN HEAVY AND RIGHT UP LIGHT"),
  (0x2520, "0BOX DRAWINGS VERTICAL HEAVY AND RIGHT LIGHT|2DOWN LIGHT AND RIGHT UP HEAVY|2UP LIGHT AND RIGHT DOWN HEAVY|2HEAVY VERTICAL AND RIGHT"),
  (0x2524, "0BOX DRAWINGS LIGHT VERTICAL AND LEFT|2VERTICAL LIGHT AND LEFT HEAVY|2UP HEAVY AND LEFT DOWN LIGHT|2DOWN HEAVY AND LEFT UP LIGHT"),
  (0x2528, "0BOX DRAWINGS VERTICAL HEAVY AND LEFT LIGHT|2DOWN LIGHT AND LEFT UP HEAVY|2UP LIGHT AND LEFT DOWN HEAVY|2HEAVY VERTICAL AND LEFT"),
  (0x252C, "0BOX DRAWINGS LIGHT DOWN AND HORIZONTAL|2LEFT HEAVY AND RIGHT DOWN LIGHT|2RIGHT HEAVY AND LEFT DOWN LIGHT|2DOWN LIGHT AND HORIZONTAL HEAVY"),
  (0x2530, "0BOX DRAWINGS DOWN HEAVY AND HORIZONTAL LIGHT|2RIGHT LIGHT AND LEFT DOWN HEAVY|2LEFT LIGHT AND RIGHT DOWN HEAVY|2HEAVY DOWN AND HORIZONTAL"),
  (0x2534, "0BOX DRAWINGS LIGHT UP AND HORIZONTAL|2LEFT HEAVY AND RIGHT UP LIGHT|2RIGHT HEAVY AND LEFT UP LIGHT|2UP LIGHT AND HORIZONTAL HEAVY"),
  (0x2538, "0BOX DRAWINGS UP HEAVY AND HORIZONTAL LIGHT|2RIGHT LIGHT AND LEFT UP HEAVY|2LEFT LIGHT AND RIGHT UP HEAVY|2HEAVY UP AND HORIZONTAL"),
  (0x253C, "0BOX DRAWINGS LIGHT VERTICAL AND HORIZONTAL|2LEFT HEAVY AND RIGHT VERTICAL LIGHT|2RIGHT HEAVY AND LEFT VERTICAL LIGHT"),
  (0x253F, "0BOX DRAWINGS VERTICAL LIGHT AND HORIZONTAL HEAVY|2UP HEAVY AND DOWN HORIZONTAL LIGHT|2DOWN HEAVY AND UP HORIZONTAL LIGHT"),
  (0x2542, "0BOX DRAWINGS VERTICAL HEAVY AND HORIZONTAL LIGHT|2LEFT UP HEAVY AND RIGHT DOWN LIGHT|2RIGHT UP HEAVY AND LEFT DOWN LIGHT"),
  (0x2545, "0BOX DRAWINGS LEFT DOWN HEAVY AND RIGHT UP LIGHT|2RIGHT DOWN HEAVY AND LEFT UP LIGHT|2DOWN LIGHT AND UP HORIZONTAL HEAVY"),
  (0x2548, "0BOX DRAWINGS UP LIGHT AND DOWN HORIZONTAL HEAVY|2RIGHT LIGHT AND LEFT VERTICAL HEAVY|2LEFT LIGHT AND RIGHT VERTICAL HEAVY"),
  (0x254B, "0BOX DRAWINGS HEAVY VERTICAL AND HORIZONTAL|2LIGHT DOUBLE DASH HORIZONTAL|2HEAVY DOUBLE DASH HORIZONTAL|2LIGHT DOUBLE DASH VERTICAL"),
  (0x254F, "0BOX DRAWINGS HEAVY DOUBLE DASH VERTICAL|2DOUBLE HORIZONTAL|3VERTICAL|2DOWN SINGLE AND RIGHT DOUBLE|3DOUBLE AND RIGHT SINGLE|2DOUBLE DOWN AND RIGHT"),
  (0x2555, "0BOX DRAWINGS DOWN SINGLE AND LEFT DOUBLE|3DOUBLE AND LEFT SINGLE|2DOUBLE DOWN AND LEFT|2UP SINGLE AND RIGHT DOUBLE|3DOUBLE AND RIGHT SINGLE"),
  (0x255A, "0BOX DRAWINGS DOUBLE UP AND RIGHT|2UP SINGLE AND LEFT DOUBLE|3DOUBLE AND LEFT SINGLE|2DOUBLE UP AND LEFT|2VERTICAL SINGLE AND RIGHT DOUBLE"),
  (0x255F, "0BOX DRAWINGS VERTICAL DOUBLE AND RIGHT SINGLE|2DOUBLE VERTICAL AND RIGHT|2VERTICAL SINGLE AND LEFT DOUBLE|3DOUBLE AND LEFT SINGLE"),
  (0x2563, "0BOX DRAWINGS DOUBLE VERTICAL AND LEFT|2DOWN SINGLE AND HORIZONTAL DOUBLE|3DOUBLE AND HORIZONTAL SINGLE|2DOUBLE DOWN AND HORIZONTAL"),
  (0x2567, "0BOX DRAWINGS UP SINGLE AND HORIZONTAL DOUBLE|3DOUBLE AND HORIZONTAL SINGLE|2DOUBLE UP AND HORIZONTAL|2VERTICAL SINGLE AND HORIZONTAL DOUBLE"),
  (0x256B, "0BOX DRAWINGS VERTICAL DOUBLE AND HORIZONTAL SINGLE|2DOUBLE VERTICAL AND HORIZONTAL|2LIGHT ARC DOWN AND RIGHT|6LEFT|4UP AND LEFT|6RIGHT"),
  (0x2571, "0BOX DRAWINGS LIGHT DIAGONAL UPPER RIGHT TO LOWER LEFT|5LEFT TO LOWER RIGHT|4CROSS|3LEFT|3UP|3RIGHT|3DOWN|2HEAVY LEFT|3UP|3RIGHT|3DOWN"),
  (0x257C, "0BOX DRAWINGS LIGHT LEFT AND HEAVY RIGHT|3UP AND HEAVY DOWN|2HEAVY LEFT AND LIGHT RIGHT|3UP AND LIGHT DOWN|0UPPER HALF BLOCK|0LOWER ONE EIGHTH BLOCK"),
  (0x2582, "0LOWER ONE QUARTER BLOCK|1THREE EIGHTHS BLOCK|1HALF BLOCK|1FIVE EIGHTHS BLOCK|1THREE QUARTERS BLOCK|1SEVEN EIGHTHS BLOCK|0FULL BLOCK"),
  (0x2589, "0LEFT SEVEN EIGHTHS BLOCK|1THREE QUARTERS BLOCK|1FIVE EIGHTHS BLOCK|1HALF BLOCK|1THREE EIGHTHS BLOCK|1ONE QUARTER BLOCK|2EIGHTH BLOCK"),
  (0x2590, "0RIGHT HALF BLOCK|0LIGHT SHADE|0MEDIUM SHADE|0DARK SHADE|0UPPER ONE EIGHTH BLOCK|0RIGHT ONE EIGHTH BLOCK|0QUADRANT LOWER LEFT|2RIGHT|1UPPER LEFT"),
  (0x2599, "0QUADRANT UPPER LEFT AND LOWER LEFT AND LOWER RIGHT|5RIGHT|4UPPER RIGHT AND LOWER LEFT|8RIGHT|2RIGHT|3AND LOWER LEFT|6AND LOWER RIGHT|0BLACK SQUARE"),
  (0x25A1, "0WHITE SQUARE|2WITH ROUNDED CORNERS|2CONTAINING BLACK SMALL SQUARE|0SQUARE WITH HORIZONTAL FILL|2VERTICAL FILL|2ORTHOGONAL CROSSHATCH FILL"),
  (0x25A7, "0SQUARE WITH UPPER LEFT TO LOWER RIGHT FILL|3RIGHT TO LOWER LEFT FILL|2DIAGONAL CROSSHATCH FILL|0BLACK SMALL SQUARE|0WHITE SMALL SQUARE"),
  (0x25AC, "0BLACK RECTANGLE|0WHITE RECTANGLE|0BLACK VERTICAL RECTANGLE|0WHITE VERTICAL RECTANGLE|0BLACK PARALLELOGRAM|0WHITE PARALLELOGRAM"),
  (0x25B2, "0BLACK UP-POINTING TRIANGLE|0WHITE UP-POINTING TRIANGLE|0BLACK UP-POINTING SMALL TRIANGLE|0WHITE UP-POINTING SMALL TRIANGLE"),
  (0x25B6, "0BLACK RIGHT-POINTING TRIANGLE|0WHITE RIGHT-POINTING TRIANGLE|0BLACK RIGHT-POINTING SMALL TRIANGLE|0WHITE RIGHT-POINTING SMALL TRIANGLE"),
  (0x25BA, "0BLACK RIGHT-POINTING POINTER|0WHITE RIGHT-POINTING POINTER|0BLACK DOWN-POINTING TRIANGLE|0WHITE DOWN-POINTING TRIANGLE"),
  (0x25BE, "0BLACK DOWN-POINTING SMALL TRIANGLE|0WHITE DOWN-POINTING SMALL TRIANGLE|0BLACK LEFT-POINTING TRIANGLE|0WHITE LEFT-POINTING TRIANGLE"),
  (0x25C2, "0BLACK LEFT-POINTING SMALL TRIANGLE|0WHITE LEFT-POINTING SMALL TRIANGLE|0BLACK LEFT-POINTING POINTER|0WHITE LEFT-POINTING POINTER|0BLACK DIAMOND"),
  (0x25C7, "0WHITE DIAMOND|2CONTAINING BLACK SMALL DIAMOND|0FISHEYE|0LOZENGE|0WHITE CIRCLE|0DOTTED CIRCLE|0CIRCLE WITH VERTICAL FILL|0BULLSEYE|0BLACK CIRCLE"),
  (0x25D0, "0CIRCLE WITH LEFT HALF BLACK|2RIGHT HALF BLACK|2LOWER HALF BLACK|2UPPER HALF BLACK|3RIGHT QUADRANT BLACK|2ALL BUT UPPER LEFT QUADRANT BLACK"),
  (0x25D6, "0LEFT HALF BLACK CIRCLE|0RIGHT HALF BLACK CIRCLE|0INVERSE BULLET|1WHITE CIRCLE|0UPPER HALF INVERSE WHITE CIRCLE|0LOWER HALF INVERSE WHITE CIRCLE"),
  (0x25DC, "0UPPER LEFT QUADRANT CIRCULAR ARC|1RIGHT QUADRANT CIRCULAR ARC|0LOWER RIGHT QUADRANT CIRCULAR ARC|1LEFT QUADRANT CIRCULAR ARC|0UPPER HALF CIRCLE"),
  (0x25E1, "0LOWER HALF CIRCLE|0BLACK LOWER RIGHT TRIANGLE|2LEFT TRIANGLE|1UPPER LEFT TRIANGLE|2RIGHT TRIANGLE|0WHITE BULLET|0SQUARE WITH LEFT HALF BLACK"),
  (0x25E8, "0SQUARE WITH RIGHT HALF BLACK|2UPPER LEFT DIAGONAL HALF BLACK|2LOWER RIGHT DIAGONAL HALF BLACK|0WHITE SQUARE WITH VERTICAL BISECTING LINE"),
  (0x25EC, "0WHITE UP-POINTING TRIANGLE WITH DOT|0UP-POINTING TRIANGLE WITH LEFT HALF BLACK|3RIGHT HALF BLACK|0LARGE CIRCLE|0WHITE SQUARE WITH UPPER LEFT QUADRANT"),
  (0x25F1, "0WHITE SQUARE WITH LOWER LEFT QUADRANT|4RIGHT QUADRANT|3UPPER RIGHT QUADRANT|1CIRCLE WITH UPPER LEFT QUADRANT|3LOWER LEFT QUADRANT|4RIGHT QUADRANT"),
  (0x25F7, "0WHITE CIRCLE WITH UPPER RIGHT QUADRANT|0UPPER LEFT TRIANGLE|1RIGHT TRIANGLE|0LOWER LEFT TRIANGLE|0WHITE MEDIUM SQUARE|0BLACK MEDIUM SQUARE"),
  (0x25FD, "0WHITE MEDIUM SMALL SQUARE|0BLACK MEDIUM SMALL SQUARE|0LOWER RIGHT TRIANGLE|0BLACK SUN WITH RAYS|0CLOUD|0UMBRELLA|0SNOWMAN|0COMET|0BLACK STAR"),
  (0x2606, "0WHITE STAR|0LIGHTNING|0THUNDERSTORM|0SUN|0ASCENDING NODE|0DESCENDING NODE|0CONJUNCTION|0OPPOSITION|0BLACK TELEPHONE|0WHITE TELEPHONE|0BALLOT BOX"),
  (0x2611, "0BALLOT BOX WITH CHECK|3X|0SALTIRE|0UMBRELLA WITH RAIN DROPS|0HOT BEVERAGE|0WHITE SHOGI PIECE|0BLACK SHOGI PIECE|0SHAMROCK"),
  (0x2619, "0REVERSED ROTATED FLORAL HEART BULLET|0BLACK LEFT POINTING INDEX|1RIGHT POINTING INDEX|0WHITE LEFT POINTING INDEX|1UP POINTING INDEX"),
  (0x261E, "0WHITE RIGHT POINTING INDEX|1DOWN POINTING INDEX|0SKULL AND CROSSBONES|0CAUTION SIGN|0RADIOACTIVE SIGN|0BIOHAZARD SIGN|0CADUCEUS|0ANKH|0ORTHODOX CROSS"),
  (0x2627, "0CHI RHO|0CROSS OF LORRAINE|2JERUSALEM|0STAR AND CRESCENT|0FARSI SYMBOL|0ADI SHAKTI|0HAMMER AND SICKLE|0PEACE SYMBOL|0YIN YANG|0TRIGRAM FOR HEAVEN"),
  (0x2631, "0TRIGRAM FOR LAKE|2FIRE|2THUNDER|2WIND|2WATER|2MOUNTAIN|2EARTH|0WHEEL OF DHARMA|0WHITE FROWNING FACE|1SMILING FACE|0BLACK SMILING FACE"),
  (0x263C, "0WHITE SUN WITH RAYS|0FIRST QUARTER MOON|0LAST QUARTER MOON|0MERCURY|0FEMALE SIGN|0EARTH|0MALE SIGN|0JUPITER|0SATURN|0URANUS|0NEPTUNE|0PLUTO|0ARIES"),
  (0x2649, "0TAURUS|0GEMINI|0CANCER|0LEO|0VIRGO|0LIBRA|0SCORPIUS|0SAGITTARIUS|0CAPRICORN|0AQUARIUS|0PISCES|0WHITE CHESS KING|2QUEEN|2ROOK|2BISHOP|2KNIGHT|2PAWN"),
  (0x265A, "0BLACK CHESS KING|2QUEEN|2ROOK|2BISHOP|2KNIGHT|2PAWN|1SPADE SUIT|0WHITE HEART SUIT|1DIAMOND SUIT|0BLACK CLUB SUIT|0WHITE SPADE SUIT|0BLACK HEART SUIT"),
  (0x2666, "0BLACK DIAMOND SUIT|0WHITE CLUB SUIT|0HOT SPRINGS|0QUARTER NOTE|0EIGHTH NOTE|0BEAMED EIGHTH NOTES|1SIXTEENTH NOTES|0MUSIC FLAT SIGN|1NATURAL SIGN"),
  (0x266F, "0MUSIC SHARP SIGN|0WEST SYRIAC CROSS|0EAST SYRIAC CROSS|0UNIVERSAL RECYCLING SYMBOL|0RECYCLING SYMBOL FOR TYPE-1 PLASTICS|3TYPE-2 PLASTICS"),
  (0x2675, "0RECYCLING SYMBOL FOR TYPE-3 PLASTICS|3TYPE-4 PLASTICS|3TYPE-5 PLASTICS|3TYPE-6 PLASTICS|3TYPE-7 PLASTICS|3GENERIC MATERIALS"),
  (0x267B, "0BLACK UNIVERSAL RECYCLING SYMBOL|0RECYCLED PAPER SYMBOL|0PARTIALLY-RECYCLED PAPER SYMBOL|0PERMANENT PAPER SIGN|0WHEELCHAIR SYMBOL|0DIE FACE-1|1FACE-2"),
  (0x2682, "0DIE FACE-3|1FACE-4|1FACE-5|1FACE-6|0WHITE CIRCLE WITH DOT RIGHT|3TWO DOTS|0BLACK CIRCLE WITH WHITE DOT RIGHT|3TWO WHITE DOTS|0MONOGRAM FOR YANG|2YIN"),
  (0x268C, "0DIGRAM FOR GREATER YANG|2LESSER YIN|3YANG|2GREATER YIN|0WHITE FLAG|0BLACK FLAG|0HAMMER AND PICK|0ANCHOR|0CROSSED SWORDS|0STAFF OF AESCULAPIUS|0SCALES"),
  (0x2697, "0ALEMBIC|0FLOWER|0GEAR|0STAFF OF HERMES|0ATOM SYMBOL|0FLEUR-DE-LIS|0OUTLINED WHITE STAR|0THREE LINES CONVERGING RIGHT|3LEFT|0WARNING SIGN"),
  (0x26A1, "0HIGH VOLTAGE SIGN|0DOUBLED FEMALE SIGN|1MALE SIGN|0INTERLOCKED FEMALE AND MALE SIGN|0MALE AND FEMALE SIGN|1WITH STROKE SIGN|3AND MALE AND FEMALE SIGN"),
  (0x26A8, "0VERTICAL MALE WITH STROKE SIGN|0HORIZONTAL MALE WITH STROKE SIGN|0MEDIUM WHITE CIRCLE|1BLACK CIRCLE|1SMALL WHITE CIRCLE|0MARRIAGE SYMBOL"),
  (0x26AE, "0DIVORCE SYMBOL|0UNMARRIED PARTNERSHIP SYMBOL|0COFFIN|0FUNERAL URN|0NEUTER|0CERES|0PALLAS|0JUNO|0VESTA|0CHIRON|0BLACK MOON LILITH|0SEXTILE"),
  (0x26BA, "0SEMISEXTILE|0QUINCUNX|0SESQUIQUADRATE|0SOCCER BALL|0BASEBALL|0SQUARED KEY|0WHITE DRAUGHTS MAN|2KING|0BLACK DRAUGHTS MAN|2KING|0SNOWMAN WITHOUT SNOW"),
  (0x26C5, "0SUN BEHIND CLOUD|0RAIN|0BLACK SNOWMAN|0THUNDER CLOUD AND RAIN|0TURNED WHITE SHOGI PIECE|1BLACK SHOGI PIECE|0WHITE DIAMOND IN SQUARE|0CROSSING LANES"),
  (0x26CD, "0DISABLED CAR|0OPHIUCHUS|0PICK|0CAR SLIDING|0HELMET WITH WHITE CROSS|0CIRCLED CROSSING LANES|0CHAINS|0NO ENTRY|0ALTERNATE ONE-WAY LEFT WAY TRAFFIC"),
  (0x26D6, "0BLACK TWO-WAY LEFT WAY TRAFFIC|0WHITE TWO-WAY LEFT WAY TRAFFIC|0BLACK LEFT LANE MERGE|0WHITE LEFT LANE MERGE|0DRIVE SLOW SIGN"),
  (0x26DB, "0HEAVY WHITE DOWN-POINTING TRIANGLE|0LEFT CLOSED ENTRY|0SQUARED SALTIRE|0FALLING DIAGONAL IN WHITE CIRCLE IN BLACK SQUARE|0BLACK TRUCK"),
  (0x26E0, "0RESTRICTED LEFT ENTRY-1|2ENTRY-2|0ASTRONOMICAL SYMBOL FOR URANUS|0HEAVY CIRCLE WITH STROKE AND TWO DOTS ABOVE|0PENTAGRAM"),
  (0x26E5, "0RIGHT-HANDED INTERLACED PENTAGRAM|0LEFT-HANDED INTERLACED PENTAGRAM|0INVERTED PENTAGRAM|0BLACK CROSS ON SHIELD|0SHINTO SHRINE|0CHURCH|0CASTLE"),
  (0x26EC, "0HISTORIC SITE|0GEAR WITHOUT HUB|1WITH HANDLES|0MAP SYMBOL FOR LIGHTHOUSE|0MOUNTAIN|0UMBRELLA ON GROUND|0FOUNTAIN|0FLAG IN HOLE|0FERRY|0SAILBOAT"),
  (0x26F6, "0SQUARE FOUR CORNERS|0SKIER|0ICE SKATE|0PERSON WITH BALL|0TENT|0JAPANESE BANK SYMBOL|0HEADSTONE GRAVEYARD SYMBOL|0FUEL PUMP|0CUP ON BLACK SQUARE"),
  (0x26FF, "0WHITE FLAG WITH HORIZONTAL MIDDLE BLACK STRIPE|0BLACK SAFETY SCISSORS|0UPPER BLADE SCISSORS|0BLACK SCISSORS|0LOWER BLADE SCISSORS|0WHITE SCISSORS"),
  (0x2705, "0WHITE HEAVY CHECK MARK|0TELEPHONE LOCATION SIGN|0TAPE DRIVE|0AIRPLANE|0ENVELOPE|0RAISED FIST|1HAND|0VICTORY HAND|0WRITING HAND|0LOWER RIGHT PENCIL"),
  (0x270F, "0PENCIL|0UPPER RIGHT PENCIL|0WHITE NIB|0BLACK NIB|0CHECK MARK|0HEAVY CHECK MARK|0MULTIPLICATION X|0HEAVY MULTIPLICATION X|0BALLOT X|0HEAVY BALLOT X"),
  (0x2719, "0OUTLINED GREEK CROSS|0HEAVY GREEK CROSS|0OPEN CENTRE CROSS|0HEAVY OPEN CENTRE CROSS|0LATIN CROSS|0SHADOWED WHITE LATIN CROSS|0OUTLINED LATIN CROSS"),
  (0x2720, "0MALTESE CROSS|0STAR OF DAVID|0FOUR TEARDROP-SPOKED ASTERISK|1BALLOON-SPOKED ASTERISK|0HEAVY FOUR BALLOON-SPOKED ASTERISK|0FOUR CLUB-SPOKED ASTERISK"),
  (0x2726, "0BLACK FOUR POINTED STAR|0WHITE FOUR POINTED STAR|0SPARKLES|0STRESS OUTLINED WHITE STAR|0CIRCLED WHITE STAR|0OPEN CENTRE BLACK STAR"),
  (0x272C, "0BLACK CENTRE WHITE STAR|0OUTLINED BLACK STAR|0HEAVY OUTLINED BLACK STAR|0PINWHEEL STAR|0SHADOWED WHITE STAR|0HEAVY ASTERISK|0OPEN CENTRE ASTERISK"),
  (0x2733, "0EIGHT SPOKED ASTERISK|1POINTED BLACK STAR|2PINWHEEL STAR|0SIX POINTED BLACK STAR|0EIGHT POINTED RECTILINEAR BLACK STAR"),
  (0x2738, "0HEAVY EIGHT POINTED RECTILINEAR BLACK STAR|0TWELVE POINTED BLACK STAR|0SIXTEEN POINTED ASTERISK|0TEARDROP-SPOKED ASTERISK"),
  (0x273C, "0OPEN CENTRE TEARDROP-SPOKED ASTERISK|0HEAVY TEARDROP-SPOKED ASTERISK|0SIX PETALLED BLACK AND WHITE FLORETTE|0BLACK FLORETTE|0WHITE FLORETTE"),
  (0x2741, "0EIGHT PETALLED OUTLINED BLACK FLORETTE|0CIRCLED OPEN CENTRE EIGHT POINTED STAR|0HEAVY TEARDROP-SPOKED PINWHEEL ASTERISK|0SNOWFLAKE"),
  (0x2745, "0TIGHT TRIFOLIATE SNOWFLAKE|0HEAVY CHEVRON SNOWFLAKE|0SPARKLE|0HEAVY SPARKLE|0BALLOON-SPOKED ASTERISK|0EIGHT TEARDROP-SPOKED PROPELLER ASTERISK"),
  (0x274B, "0HEAVY EIGHT TEARDROP-SPOKED PROPELLER ASTERISK|0CROSS MARK|0SHADOWED WHITE CIRCLE|0NEGATIVE SQUARED CROSS MARK"),
  (0x274F, "0LOWER RIGHT DROP-SHADOWED WHITE SQUARE|0UPPER RIGHT DROP-SHADOWED WHITE SQUARE|0LOWER RIGHT SHADOWED WHITE SQUARE|0UPPER RIGHT SHADOWED WHITE SQUARE"),
  (0x2753, "0BLACK QUESTION MARK ORNAMENT|0WHITE QUESTION MARK ORNAMENT|1EXCLAMATION MARK ORNAMENT|0BLACK DIAMOND MINUS WHITE X|0HEAVY EXCLAMATION MARK SYMBOL"),
  (0x2758, "0LIGHT VERTICAL BAR|0MEDIUM VERTICAL BAR|0HEAVY VERTICAL BAR|1SINGLE TURNED COMMA QUOTATION MARK ORNAMENT|2COMMA QUOTATION MARK ORNAMENT"),
  (0x275D, "0HEAVY DOUBLE TURNED COMMA QUOTATION MARK ORNAMENT|2COMMA QUOTATION MARK ORNAMENT|1LOW SINGLE COMMA QUOTATION MARK ORNAMENT"),
  (0x2760, "0HEAVY LOW DOUBLE COMMA QUOTATION MARK ORNAMENT|0CURVED STEM PARAGRAPH SIGN ORNAMENT|0HEAVY EXCLAMATION MARK ORNAMENT|1HEART EXCLAMATION MARK ORNAMENT"),
  (0x2764, "0HEAVY BLACK HEART|0ROTATED HEAVY BLACK HEART BULLET|0FLORAL HEART|0ROTATED FLORAL HEART BULLET|0MEDIUM LEFT PARENTHESIS ORNAMENT"),
  (0x2769, "0MEDIUM RIGHT PARENTHESIS ORNAMENT|1FLATTENED LEFT PARENTHESIS ORNAMENT|2RIGHT PARENTHESIS ORNAMENT|1LEFT-POINTING ANGLE BRACKET ORNAMENT"),
  (0x276D, "0MEDIUM RIGHT-POINTING ANGLE BRACKET ORNAMENT|0HEAVY LEFT-POINTING ANGLE QUOTATION MARK ORNAMENT|1RIGHT-POINTING ANGLE QUOTATION MARK ORNAMENT"),
  (0x2770, "0HEAVY LEFT-POINTING ANGLE BRACKET ORNAMENT|1RIGHT-POINTING ANGLE BRACKET ORNAMENT|0LIGHT LEFT TORTOISE SHELL BRACKET ORNAMENT"),
  (0x2773, "0LIGHT RIGHT TORTOISE SHELL BRACKET ORNAMENT|0MEDIUM LEFT CURLY BRACKET ORNAMENT|1RIGHT CURLY BRACKET ORNAMENT|0DINGBAT NEGATIVE CIRCLED DIGIT ONE"),
  (0x2777, "0DINGBAT NEGATIVE CIRCLED DIGIT TWO|4THREE|4FOUR|4FIVE|4SIX|4SEVEN|4EIGHT|4NINE|3NUMBER TEN|1CIRCLED SANS-SERIF DIGIT ONE|4TWO|4THREE|4FOUR|4FIVE|4SIX"),
  (0x2786, "0DINGBAT CIRCLED SANS-SERIF DIGIT SEVEN|4EIGHT|4NINE|3NUMBER TEN|1NEGATIVE CIRCLED SANS-SERIF DIGIT ONE|5TWO|5THREE|5FOUR|5FIVE|5SIX|5SEVEN|5EIGHT"),
  (0x2792, "0DINGBAT NEGATIVE CIRCLED SANS-SERIF DIGIT NINE|4NUMBER TEN|0HEAVY WIDE-HEADED RIGHTWARDS ARROW|1PLUS SIGN|1MINUS SIGN|1DIVISION SIGN"),
  (0x2798, "0HEAVY SOUTH EAST ARROW|1RIGHTWARDS ARROW|1NORTH EAST ARROW|0DRAFTING POINT RIGHTWARDS ARROW|0HEAVY ROUND-TIPPED RIGHTWARDS ARROW"),
  (0x279D, "0TRIANGLE-HEADED RIGHTWARDS ARROW|0HEAVY TRIANGLE-HEADED RIGHTWARDS ARROW|0DASHED TRIANGLE-HEADED RIGHTWARDS ARROW"),
  (0x27A0, "0HEAVY DASHED TRIANGLE-HEADED RIGHTWARDS ARROW|0BLACK RIGHTWARDS ARROW|0THREE-D TOP-LIGHTED RIGHTWARDS ARROWHEAD|1BOTTOM-LIGHTED RIGHTWARDS ARROWHEAD"),
  (0x27A4, "0BLACK RIGHTWARDS ARROWHEAD|0HEAVY BLACK CURVED DOWNWARDS AND RIGHTWARDS ARROW|3UPWARDS AND RIGHTWARDS ARROW|0SQUAT BLACK RIGHTWARDS ARROW"),
  (0x27A8, "0HEAVY CONCAVE-POINTED BLACK RIGHTWARDS ARROW|0RIGHT-SHADED WHITE RIGHTWARDS ARROW|0LEFT-SHADED WHITE RIGHTWARDS ARROW"),
  (0x27AB, "0BACK-TILTED SHADOWED WHITE RIGHTWARDS ARROW|0FRONT-TILTED SHADOWED WHITE RIGHTWARDS ARROW|0HEAVY LOWER RIGHT-SHADOWED WHITE RIGHTWARDS ARROW"),
  (0x27AE, "0HEAVY UPPER RIGHT-SHADOWED WHITE RIGHTWARDS ARROW|0NOTCHED LOWER RIGHT-SHADOWED WHITE RIGHTWARDS ARROW|0CURLY LOOP"),
  (0x27B1, "0NOTCHED UPPER RIGHT-SHADOWED WHITE RIGHTWARDS ARROW|0CIRCLED HEAVY WHITE RIGHTWARDS ARROW|0WHITE-FEATHERED RIGHTWARDS ARROW"),
  (0x27B4, "0BLACK-FEATHERED SOUTH EAST ARROW|1RIGHTWARDS ARROW|1NORTH EAST ARROW|0HEAVY BLACK-FEATHERED SOUTH EAST ARROW|2RIGHTWARDS ARROW|2NORTH EAST ARROW"),
  (0x27BA, "0TEARDROP-BARBED RIGHTWARDS ARROW|0HEAVY TEARDROP-SHANKED RIGHTWARDS ARROW|0WEDGE-TAILED RIGHTWARDS ARROW|0HEAVY WEDGE-TAILED RIGHTWARDS ARROW"),
  (0x27BE, "0OPEN-OUTLINED RIGHTWARDS ARROW|0DOUBLE CURLY LOOP|0THREE DIMENSIONAL ANGLE|0WHITE TRIANGLE CONTAINING SMALL WHITE TRIANGLE|0PERPENDICULAR"),
  (0x27C3, "0OPEN SUBSET|1SUPERSET|0LEFT S-SHAPED BAG DELIMITER|0RIGHT S-SHAPED BAG DELIMITER|0OR WITH DOT INSIDE|0REVERSE SOLIDUS PRECEDING SUBSET"),
  (0x27C9, "0SUPERSET PRECEDING SOLIDUS|0VERTICAL BAR WITH HORIZONTAL STROKE|0MATHEMATICAL RISING DIAGONAL|0LONG DIVISION|0MATHEMATICAL FALLING DIAGONAL"),
  (0x27CE, "0SQUARED LOGICAL AND|2OR|0WHITE DIAMOND WITH CENTRED DOT|0AND WITH DOT|0ELEMENT OF OPENING UPWARDS|0LOWER RIGHT CORNER WITH DOT"),
  (0x27D4, "0UPPER LEFT CORNER WITH DOT|0LEFT OUTER JOIN|0RIGHT OUTER JOIN|0FULL OUTER JOIN|0LARGE UP TACK|1DOWN TACK|0LEFT AND RIGHT DOUBLE TURNSTILE|3TACK"),
  (0x27DC, "0LEFT MULTIMAP|0LONG RIGHT TACK|1LEFT TACK|0UP TACK WITH CIRCLE ABOVE|0LOZENGE DIVIDED BY HORIZONTAL RULE|0WHITE CONCAVE-SIDED DIAMOND"),
  (0x27E2, "0WHITE CONCAVE-SIDED DIAMOND WITH LEFTWARDS TICK|4RIGHTWARDS TICK|1SQUARE WITH LEFTWARDS TICK|3RIGHTWARDS TICK|0MATHEMATICAL LEFT WHITE SQUARE BRACKET"),
  (0x27E7, "0MATHEMATICAL RIGHT WHITE SQUARE BRACKET|1LEFT ANGLE BRACKET|1RIGHT ANGLE BRACKET|1LEFT DOUBLE ANGLE BRACKET|1RIGHT DOUBLE ANGLE BRACKET"),
  (0x27EC, "0MATHEMATICAL LEFT WHITE TORTOISE SHELL BRACKET|1RIGHT WHITE TORTOISE SHELL BRACKET|1LEFT FLATTENED PARENTHESIS|1RIGHT FLATTENED PARENTHESIS"),
  (0x27F0, "0UPWARDS QUADRUPLE ARROW|0DOWNWARDS QUADRUPLE ARROW|0ANTICLOCKWISE GAPPED CIRCLE ARROW|0CLOCKWISE GAPPED CIRCLE ARROW|0RIGHT ARROW WITH CIRCLED PLUS"),
  (0x27F5, "0LONG LEFTWARDS ARROW|1RIGHTWARDS ARROW|1LEFT RIGHT ARROW|1LEFTWARDS DOUBLE ARROW|1RIGHTWARDS DOUBLE ARROW|1LEFT RIGHT DOUBLE ARROW"),
  (0x27FB, "0LONG LEFTWARDS ARROW FROM BAR|1RIGHTWARDS ARROW FROM BAR|1LEFTWARDS DOUBLE ARROW FROM BAR|1RIGHTWARDS DOUBLE ARROW FROM BAR|2SQUIGGLE ARROW")]

end CharName
end ScopeChain
