/-
Names of letters of Europe, with the signs of ASCII and Latin-1.

A row has the names of characters one behind the other.  In front of each stands how many
words it shares with the name before it.
-/
namespace ScopeChain
namespace CharName

def western : List (Nat × String) := [
  (0x20, "0SPACE|0EXCLAMATION MARK|0QUOTATION MARK|0NUMBER SIGN|0DOLLAR SIGN|0PERCENT SIGN|0AMPERSAND|0APOSTROPHE|0LEFT PARENTHESIS|0RIGHT PARENTHESIS|0ASTERISK"),
  (0x2B, "0PLUS SIGN|0COMMA|0HYPHEN-MINUS|0FULL STOP|0SOLIDUS|0DIGIT ZERO|1ONE|1TWO|1THREE|1FOUR|1FIVE|1SIX|1SEVEN|1EIGHT|1NINE|0COLON|0SEMICOLON"),
  (0x3C, "0LESS-THAN SIGN|0EQUALS SIGN|0GREATER-THAN SIGN|0QUESTION MARK|0COMMERCIAL AT|0LATIN CAPITAL LETTER A|3B|3C|3D|3E|3F|3G|3H|3I|3J|3K|3L|3M|3N|3O|3P|3Q"),
  (0x52, "0LATIN CAPITAL LETTER R|3S|3T|3U|3V|3W|3X|3Y|3Z|0LEFT SQUARE BRACKET|0REVERSE SOLIDUS|0RIGHT SQUARE BRACKET|0CIRCUMFLEX ACCENT|0LOW LINE|0GRAVE ACCENT"),
  (0x61, "0LATIN SMALL LETTER A|3B|3C|3D|3E|3F|3G|3H|3I|3J|3K|3L|3M|3N|3O|3P|3Q|3R|3S|3T|3U|3V|3W|3X|3Y|3Z|0LEFT CURLY BRACKET|0VERTICAL LINE"),
  (0x7D, "0RIGHT CURLY BRACKET|0TILDE"),
  (0xA0, "0NO-BREAK SPACE|0INVERTED EXCLAMATION MARK|0CENT SIGN|0POUND SIGN|0CURRENCY SIGN|0YEN SIGN|0BROKEN BAR|0SECTION SIGN|0DIAERESIS|0COPYRIGHT SIGN"),
  (0xAA, "0FEMININE ORDINAL INDICATOR|0LEFT-POINTING DOUBLE ANGLE QUOTATION MARK|0NOT SIGN|0SOFT HYPHEN|0REGISTERED SIGN|0MACRON|0DEGREE SIGN|0PLUS-MINUS SIGN"),
  (0xB2, "0SUPERSCRIPT TWO|1THREE|0ACUTE ACCENT|0MICRO SIGN|0PILCROW SIGN|0MIDDLE DOT|0CEDILLA|0SUPERSCRIPT ONE|0MASCULINE ORDINAL INDICATOR"),
  (0xBB, "0RIGHT-POINTING DOUBLE ANGLE QUOTATION MARK|0VULGAR FRACTION ONE QUARTER|3HALF|2THREE QUARTERS|0INVERTED QUESTION MARK"),
  (0xC0, "0LATIN CAPITAL LETTER A WITH GRAVE|5ACUTE|5CIRCUMFLEX|5TILDE|5DIAERESIS|5RING ABOVE|3AE|3C WITH CEDILLA|3E WITH GRAVE|5ACUTE|5CIRCUMFLEX|5DIAERESIS"),
  (0xCC, "0LATIN CAPITAL LETTER I WITH GRAVE|5ACUTE|5CIRCUMFLEX|5DIAERESIS|3ETH|3N WITH TILDE|3O WITH GRAVE|5ACUTE|5CIRCUMFLEX|5TILDE|5DIAERESIS"),
  (0xD7, "0MULTIPLICATION SIGN|0LATIN CAPITAL LETTER O WITH STROKE|3U WITH GRAVE|5ACUTE|5CIRCUMFLEX|5DIAERESIS|3Y WITH ACUTE|3THORN|1SMALL LETTER SHARP S"),
  (0xE0, "0LATIN SMALL LETTER A WITH GRAVE|5ACUTE|5CIRCUMFLEX|5TILDE|5DIAERESIS|5RING ABOVE|3AE|3C WITH CEDILLA|3E WITH GRAVE|5ACUTE|5CIRCUMFLEX|5DIAERESIS"),
  (0xEC, "0LATIN SMALL LETTER I WITH GRAVE|5ACUTE|5CIRCUMFLEX|5DIAERESIS|3ETH|3N WITH TILDE|3O WITH GRAVE|5ACUTE|5CIRCUMFLEX|5TILDE|5DIAERESIS|0DIVISION SIGN"),
  (0xF8, "0LATIN SMALL LETTER O WITH STROKE|3U WITH GRAVE|5ACUTE|5CIRCUMFLEX|5DIAERESIS|3Y WITH ACUTE|3THORN|3Y WITH DIAERESIS|1CAPITAL LETTER A WITH MACRON"),
  (0x101, "0LATIN SMALL LETTER A WITH MACRON|1CAPITAL LETTER A WITH BREVE|1SMALL LETTER A WITH BREVE|1CAPITAL LETTER A WITH OGONEK|1SMALL LETTER A WITH OGONEK"),
  (0x106, "0LATIN CAPITAL LETTER C WITH ACUTE|1SMALL LETTER C WITH ACUTE|1CAPITAL LETTER C WITH CIRCUMFLEX|1SMALL LETTER C WITH CIRCUMFLEX"),
  (0x10A, "0LATIN CAPITAL LETTER C WITH DOT ABOVE|1SMALL LETTER C WITH DOT ABOVE|1CAPITAL LETTER C WITH CARON|1SMALL LETTER C WITH CARON"),
  (0x10E, "0LATIN CAPITAL LETTER D WITH CARON|1SMALL LETTER D WITH CARON|1CAPITAL LETTER D WITH STROKE|1SMALL LETTER D WITH STROKE|1CAPITAL LETTER E WITH MACRON"),
  (0x113, "0LATIN SMALL LETTER E WITH MACRON|1CAPITAL LETTER E WITH BREVE|1SMALL LETTER E WITH BREVE|1CAPITAL LETTER E WITH DOT ABOVE"),
  (0x117, "0LATIN SMALL LETTER E WITH DOT ABOVE|1CAPITAL LETTER E WITH OGONEK|1SMALL LETTER E WITH OGONEK|1CAPITAL LETTER E WITH CARON|1SMALL LETTER E WITH CARON"),
  (0x11C, "0LATIN CAPITAL LETTER G WITH CIRCUMFLEX|1SMALL LETTER G WITH CIRCUMFLEX|1CAPITAL LETTER G WITH BREVE|1SMALL LETTER G WITH BREVE"),
  (0x120, "0LATIN CAPITAL LETTER G WITH DOT ABOVE|1SMALL LETTER G WITH DOT ABOVE|1CAPITAL LETTER G WITH CEDILLA|1SMALL LETTER G WITH CEDILLA"),
  (0x124, "0LATIN CAPITAL LETTER H WITH CIRCUMFLEX|1SMALL LETTER H WITH CIRCUMFLEX|1CAPITAL LETTER H WITH STROKE|1SMALL LETTER H WITH STROKE"),
  (0x128, "0LATIN CAPITAL LETTER I WITH TILDE|1SMALL LETTER I WITH TILDE|1CAPITAL LETTER I WITH MACRON|1SMALL LETTER I WITH MACRON|1CAPITAL LETTER I WITH BREVE"),
  (0x12D, "0LATIN SMALL LETTER I WITH BREVE|1CAPITAL LETTER I WITH OGONEK|1SMALL LETTER I WITH OGONEK|1CAPITAL LETTER I WITH DOT ABOVE|1SMALL LETTER DOTLESS I"),
  (0x132, "0LATIN CAPITAL LIGATURE IJ|1SMALL LIGATURE IJ|1CAPITAL LETTER J WITH CIRCUMFLEX|1SMALL LETTER J WITH CIRCUMFLEX|1CAPITAL LETTER K WITH CEDILLA"),
  (0x137, "0LATIN SMALL LETTER K WITH CEDILLA|3KRA|1CAPITAL LETTER L WITH ACUTE|1SMALL LETTER L WITH ACUTE|1CAPITAL LETTER L WITH CEDILLA"),
  (0x13C, "0LATIN SMALL LETTER L WITH CEDILLA|1CAPITAL LETTER L WITH CARON|1SMALL LETTER L WITH CARON|1CAPITAL LETTER L WITH MIDDLE DOT"),
  (0x140, "0LATIN SMALL LETTER L WITH MIDDLE DOT|1CAPITAL LETTER L WITH STROKE|1SMALL LETTER L WITH STROKE|1CAPITAL LETTER N WITH ACUTE"),
  (0x144, "0LATIN SMALL LETTER N WITH ACUTE|1CAPITAL LETTER N WITH CEDILLA|1SMALL LETTER N WITH CEDILLA|1CAPITAL LETTER N WITH CARON|1SMALL LETTER N WITH CARON"),
  (0x149, "0LATIN SMALL LETTER N PRECEDED BY APOSTROPHE|1CAPITAL LETTER ENG|1SMALL LETTER ENG|1CAPITAL LETTER O WITH MACRON|1SMALL LETTER O WITH MACRON"),
  (0x14E, "0LATIN CAPITAL LETTER O WITH BREVE|1SMALL LETTER O WITH BREVE|1CAPITAL LETTER O WITH DOUBLE ACUTE|1SMALL LETTER O WITH DOUBLE ACUTE"),
  (0x152, "0LATIN CAPITAL LIGATURE OE|1SMALL LIGATURE OE|1CAPITAL LETTER R WITH ACUTE|1SMALL LETTER R WITH ACUTE|1CAPITAL LETTER R WITH CEDILLA"),
  (0x157, "0LATIN SMALL LETTER R WITH CEDILLA|1CAPITAL LETTER R WITH CARON|1SMALL LETTER R WITH CARON|1CAPITAL LETTER S WITH ACUTE|1SMALL LETTER S WITH ACUTE"),
  (0x15C, "0LATIN CAPITAL LETTER S WITH CIRCUMFLEX|1SMALL LETTER S WITH CIRCUMFLEX|1CAPITAL LETTER S WITH CEDILLA|1SMALL LETTER S WITH CEDILLA"),
  (0x160, "0LATIN CAPITAL LETTER S WITH CARON|1SMALL LETTER S WITH CARON|1CAPITAL LETTER T WITH CEDILLA|1SMALL LETTER T WITH CEDILLA|1CAPITAL LETTER T WITH CARON"),
  (0x165, "0LATIN SMALL LETTER T WITH CARON|1CAPITAL LETTER T WITH STROKE|1SMALL LETTER T WITH STROKE|1CAPITAL LETTER U WITH TILDE|1SMALL LETTER U WITH TILDE"),
  (0x16A, "0LATIN CAPITAL LETTER U WITH MACRON|1SMALL LETTER U WITH MACRON|1CAPITAL LETTER U WITH BREVE|1SMALL LETTER U WITH BREVE"),
  (0x16E, "0LATIN CAPITAL LETTER U WITH RING ABOVE|1SMALL LETTER U WITH RING ABOVE|1CAPITAL LETTER U WITH DOUBLE ACUTE|1SMALL LETTER U WITH DOUBLE ACUTE"),
  (0x172, "0LATIN CAPITAL LETTER U WITH OGONEK|1SMALL LETTER U WITH OGONEK|1CAPITAL LETTER W WITH CIRCUMFLEX|1SMALL LETTER W WITH CIRCUMFLEX"),
  (0x176, "0LATIN CAPITAL LETTER Y WITH CIRCUMFLEX|1SMALL LETTER Y WITH CIRCUMFLEX|1CAPITAL LETTER Y WITH DIAERESIS|3Z WITH ACUTE|1SMALL LETTER Z WITH ACUTE"),
  (0x17B, "0LATIN CAPITAL LETTER Z WITH DOT ABOVE|1SMALL LETTER Z WITH DOT ABOVE|1CAPITAL LETTER Z WITH CARON|1SMALL LETTER Z WITH CARON|3LONG S|3B WITH STROKE"),
  (0x181, "0LATIN CAPITAL LETTER B WITH HOOK|5TOPBAR|1SMALL LETTER B WITH TOPBAR|1CAPITAL LETTER TONE SIX|1SMALL LETTER TONE SIX|1CAPITAL LETTER OPEN O"),
  (0x187, "0LATIN CAPITAL LETTER C WITH HOOK|1SMALL LETTER C WITH HOOK|1CAPITAL LETTER AFRICAN D|3D WITH HOOK|5TOPBAR|1SMALL LETTER D WITH TOPBAR|3TURNED DELTA"),
  (0x18E, "0LATIN CAPITAL LETTER REVERSED E|3SCHWA|3OPEN E|3F WITH HOOK|1SMALL LETTER F WITH HOOK|1CAPITAL LETTER G WITH HOOK|3GAMMA|1SMALL LETTER HV"),
  (0x196, "0LATIN CAPITAL LETTER IOTA|3I WITH STROKE|3K WITH HOOK|1SMALL LETTER K WITH HOOK|3L WITH BAR|3LAMBDA WITH STROKE|1CAPITAL LETTER TURNED M"),
  (0x19D, "0LATIN CAPITAL LETTER N WITH LEFT HOOK|1SMALL LETTER N WITH LONG RIGHT LEG|1CAPITAL LETTER O WITH MIDDLE TILDE|5HORN|1SMALL LETTER O WITH HORN"),
  (0x1A2, "0LATIN CAPITAL LETTER OI|1SMALL LETTER OI|1CAPITAL LETTER P WITH HOOK|1SMALL LETTER P WITH HOOK|1LETTER YR|1CAPITAL LETTER TONE TWO"),
  (0x1A8, "0LATIN SMALL LETTER TONE TWO|1CAPITAL LETTER ESH|1LETTER REVERSED ESH LOOP|1SMALL LETTER T WITH PALATAL HOOK|1CAPITAL LETTER T WITH HOOK"),
  (0x1AD, "0LATIN SMALL LETTER T WITH HOOK|1CAPITAL LETTER T WITH RETROFLEX HOOK|3U WITH HORN|1SMALL LETTER U WITH HORN|1CAPITAL LETTER UPSILON|3V WITH HOOK"),
  (0x1B3, "0LATIN CAPITAL LETTER Y WITH HOOK|1SMALL LETTER Y WITH HOOK|1CAPITAL LETTER Z WITH STROKE|1SMALL LETTER Z WITH STROKE|1CAPITAL LETTER EZH|4REVERSED"),
  (0x1B9, "0LATIN SMALL LETTER EZH REVERSED|4WITH TAIL|1LETTER TWO WITH STROKE|1CAPITAL LETTER TONE FIVE|1SMALL LETTER TONE FIVE"),
  (0x1BE, "0LATIN LETTER INVERTED GLOTTAL STOP WITH STROKE|2WYNN|2DENTAL CLICK|2LATERAL CLICK|2ALVEOLAR CLICK|2RETROFLEX CLICK|1CAPITAL LETTER DZ WITH CARON"),
  (0x1C5, "0LATIN CAPITAL LETTER D WITH SMALL LETTER Z WITH CARON|1SMALL LETTER DZ WITH CARON|1CAPITAL LETTER LJ|3L WITH SMALL LETTER J|1SMALL LETTER LJ"),
  (0x1CA, "0LATIN CAPITAL LETTER NJ|3N WITH SMALL LETTER J|1SMALL LETTER NJ|1CAPITAL LETTER A WITH CARON|1SMALL LETTER A WITH CARON|1CAPITAL LETTER I WITH CARON"),
  (0x1D0, "0LATIN SMALL LETTER I WITH CARON|1CAPITAL LETTER O WITH CARON|1SMALL LETTER O WITH CARON|1CAPITAL LETTER U WITH CARON|1SMALL LETTER U WITH CARON"),
  (0x1D5, "0LATIN CAPITAL LETTER U WITH DIAERESIS AND MACRON|1SMALL LETTER U WITH DIAERESIS AND MACRON|1CAPITAL LETTER U WITH DIAERESIS AND ACUTE"),
  (0x1D8, "0LATIN SMALL LETTER U WITH DIAERESIS AND ACUTE|1CAPITAL LETTER U WITH DIAERESIS AND CARON|1SMALL LETTER U WITH DIAERESIS AND CARON"),
  (0x1DB, "0LATIN CAPITAL LETTER U WITH DIAERESIS AND GRAVE|1SMALL LETTER U WITH DIAERESIS AND GRAVE|3TURNED E|1CAPITAL LETTER A WITH DIAERESIS AND MACRON"),
  (0x1DF, "0LATIN SMALL LETTER A WITH DIAERESIS AND MACRON|1CAPITAL LETTER A WITH DOT ABOVE AND MACRON|1SMALL LETTER A WITH DOT ABOVE AND MACRON"),
  (0x1E2, "0LATIN CAPITAL LETTER AE WITH MACRON|1SMALL LETTER AE WITH MACRON|1CAPITAL LETTER G WITH STROKE|1SMALL LETTER G WITH STROKE"),
  (0x1E6, "0LATIN CAPITAL LETTER G WITH CARON|1SMALL LETTER G WITH CARON|1CAPITAL LETTER K WITH CARON|1SMALL LETTER K WITH CARON|1CAPITAL LETTER O WITH OGONEK"),
  (0x1EB, "0LATIN SMALL LETTER O WITH OGONEK|1CAPITAL LETTER O WITH OGONEK AND MACRON|1SMALL LETTER O WITH OGONEK AND MACRON|1CAPITAL LETTER EZH WITH CARON"),
  (0x1EF, "0LATIN SMALL LETTER EZH WITH CARON|3J WITH CARON|1CAPITAL LETTER DZ|3D WITH SMALL LETTER Z|1SMALL LETTER DZ|1CAPITAL LETTER G WITH ACUTE"),
  (0x1F5, "0LATIN SMALL LETTER G WITH ACUTE|1CAPITAL LETTER HWAIR|3WYNN|3N WITH GRAVE|1SMALL LETTER N WITH GRAVE|1CAPITAL LETTER A WITH RING ABOVE AND ACUTE"),
  (0x1FB, "0LATIN SMALL LETTER A WITH RING ABOVE AND ACUTE|1CAPITAL LETTER AE WITH ACUTE|1SMALL LETTER AE WITH ACUTE|1CAPITAL LETTER O WITH STROKE AND ACUTE"),
  (0x1FF, "0LATIN SMALL LETTER O WITH STROKE AND ACUTE|1CAPITAL LETTER A WITH DOUBLE GRAVE|1SMALL LETTER A WITH DOUBLE GRAVE"),
  (0x202, "0LATIN CAPITAL LETTER A WITH INVERTED BREVE|1SMALL LETTER A WITH INVERTED BREVE|1CAPITAL LETTER E WITH DOUBLE GRAVE|1SMALL LETTER E WITH DOUBLE GRAVE"),
  (0x206, "0LATIN CAPITAL LETTER E WITH INVERTED BREVE|1SMALL LETTER E WITH INVERTED BREVE|1CAPITAL LETTER I WITH DOUBLE GRAVE|1SMALL LETTER I WITH DOUBLE GRAVE"),
  (0x20A, "0LATIN CAPITAL LETTER I WITH INVERTED BREVE|1SMALL LETTER I WITH INVERTED BREVE|1CAPITAL LETTER O WITH DOUBLE GRAVE|1SMALL LETTER O WITH DOUBLE GRAVE"),
  (0x20E, "0LATIN CAPITAL LETTER O WITH INVERTED BREVE|1SMALL LETTER O WITH INVERTED BREVE|1CAPITAL LETTER R WITH DOUBLE GRAVE|1SMALL LETTER R WITH DOUBLE GRAVE"),
  (0x212, "0LATIN CAPITAL LETTER R WITH INVERTED BREVE|1SMALL LETTER R WITH INVERTED BREVE|1CAPITAL LETTER U WITH DOUBLE GRAVE|1SMALL LETTER U WITH DOUBLE GRAVE"),
  (0x216, "0LATIN CAPITAL LETTER U WITH INVERTED BREVE|1SMALL LETTER U WITH INVERTED BREVE|1CAPITAL LETTER S WITH COMMA BELOW|1SMALL LETTER S WITH COMMA BELOW"),
  (0x21A, "0LATIN CAPITAL LETTER T WITH COMMA BELOW|1SMALL LETTER T WITH COMMA BELOW|1CAPITAL LETTER YOGH|1SMALL LETTER YOGH|1CAPITAL LETTER H WITH CARON"),
  (0x21F, "0LATIN SMALL LETTER H WITH CARON|1CAPITAL LETTER N WITH LONG RIGHT LEG|1SMALL LETTER D WITH CURL|1CAPITAL LETTER OU|1SMALL LETTER OU"),
  (0x224, "0LATIN CAPITAL LETTER Z WITH HOOK|1SMALL LETTER Z WITH HOOK|1CAPITAL LETTER A WITH DOT ABOVE|1SMALL LETTER A WITH DOT ABOVE"),
  (0x228, "0LATIN CAPITAL LETTER E WITH CEDILLA|1SMALL LETTER E WITH CEDILLA|1CAPITAL LETTER O WITH DIAERESIS AND MACRON"),
  (0x22B, "0LATIN SMALL LETTER O WITH DIAERESIS AND MACRON|1CAPITAL LETTER O WITH TILDE AND MACRON|1SMALL LETTER O WITH TILDE AND MACRON"),
  (0x22E, "0LATIN CAPITAL LETTER O WITH DOT ABOVE|1SMALL LETTER O WITH DOT ABOVE|1CAPITAL LETTER O WITH DOT ABOVE AND MACRON"),
  (0x231, "0LATIN SMALL LETTER O WITH DOT ABOVE AND MACRON|1CAPITAL LETTER Y WITH MACRON|1SMALL LETTER Y WITH MACRON|3L WITH CURL|3N WITH CURL|3T WITH CURL"),
  (0x237, "0LATIN SMALL LETTER DOTLESS J|3DB DIGRAPH|3QP DIGRAPH|1CAPITAL LETTER A WITH STROKE|3C WITH STROKE|1SMALL LETTER C WITH STROKE"),
  (0x23D, "0LATIN CAPITAL LETTER L WITH BAR|3T WITH DIAGONAL STROKE|1SMALL LETTER S WITH SWASH TAIL|3Z WITH SWASH TAIL|1CAPITAL LETTER GLOTTAL STOP"),
  (0x242, "0LATIN SMALL LETTER GLOTTAL STOP|1CAPITAL LETTER B WITH STROKE|3U BAR|3TURNED V|3E WITH STROKE|1SMALL LETTER E WITH STROKE"),
  (0x248, "0LATIN CAPITAL LETTER J WITH STROKE|1SMALL LETTER J WITH STROKE|1CAPITAL LETTER SMALL Q WITH HOOK TAIL|1SMALL LETTER Q WITH HOOK TAIL"),
  (0x24C, "0LATIN CAPITAL LETTER R WITH STROKE|1SMALL LETTER R WITH STROKE|1CAPITAL LETTER Y WITH STROKE|1SMALL LETTER Y WITH STROKE|3TURNED A|3ALPHA"),
  (0x252, "0LATIN SMALL LETTER TURNED ALPHA|3B WITH HOOK|3OPEN O|3C WITH CURL|3D WITH TAIL|5HOOK|3REVERSED E|3SCHWA|4WITH HOOK|3OPEN E|3REVERSED OPEN E"),
  (0x25D, "0LATIN SMALL LETTER REVERSED OPEN E WITH HOOK|3CLOSED REVERSED OPEN E|3DOTLESS J WITH STROKE|3G WITH HOOK|3SCRIPT G|1LETTER SMALL CAPITAL G"),
  (0x263, "0LATIN SMALL LETTER GAMMA|3RAMS HORN|3TURNED H|3H WITH HOOK|3HENG WITH HOOK|3I WITH STROKE|3IOTA|1LETTER SMALL CAPITAL I"),
  (0x26B, "0LATIN SMALL LETTER L WITH MIDDLE TILDE|5BELT|5RETROFLEX HOOK|3LEZH|3TURNED M|5WITH LONG LEG|3M WITH HOOK|3N WITH LEFT HOOK|5RETROFLEX HOOK"),
  (0x274, "0LATIN LETTER SMALL CAPITAL N|1SMALL LETTER BARRED O|1LETTER SMALL CAPITAL OE|1SMALL LETTER CLOSED OMEGA|3PHI|3TURNED R|5WITH LONG LEG|6HOOK"),
  (0x27C, "0LATIN SMALL LETTER R WITH LONG LEG|5TAIL|5FISHHOOK|3REVERSED R WITH FISHHOOK|1LETTER SMALL CAPITAL R|4INVERTED R|1SMALL LETTER S WITH HOOK|3ESH"),
  (0x284, "0LATIN SMALL LETTER DOTLESS J WITH STROKE AND HOOK|3SQUAT REVERSED ESH|3ESH WITH CURL|3TURNED T|3T WITH RETROFLEX HOOK|3U BAR|3UPSILON|3V WITH HOOK"),
  (0x28C, "0LATIN SMALL LETTER TURNED V|4W|4Y|1LETTER SMALL CAPITAL Y|1SMALL LETTER Z WITH RETROFLEX HOOK|5CURL|3EZH|4WITH CURL|1LETTER GLOTTAL STOP"),
  (0x295, "0LATIN LETTER PHARYNGEAL VOICED FRICATIVE|2INVERTED GLOTTAL STOP|2STRETCHED C|2BILABIAL CLICK|2SMALL CAPITAL B|1SMALL LETTER CLOSED OPEN E"),
  (0x29B, "0LATIN LETTER SMALL CAPITAL G WITH HOOK|4H|1SMALL LETTER J WITH CROSSED-TAIL|3TURNED K|1LETTER SMALL CAPITAL L|1SMALL LETTER Q WITH HOOK"),
  (0x2A1, "0LATIN LETTER GLOTTAL STOP WITH STROKE|2REVERSED GLOTTAL STOP WITH STROKE|1SMALL LETTER DZ DIGRAPH|3DEZH DIGRAPH|3DZ DIGRAPH WITH CURL|3TS DIGRAPH"),
  (0x2A7, "0LATIN SMALL LETTER TESH DIGRAPH|3TC DIGRAPH WITH CURL|3FENG DIGRAPH|3LS DIGRAPH|3LZ DIGRAPH|1LETTER BILABIAL PERCUSSIVE|2BIDENTAL PERCUSSIVE"),
  (0x2AE, "0LATIN SMALL LETTER TURNED H WITH FISHHOOK|7AND TAIL|0MODIFIER LETTER SMALL H|4WITH HOOK|3J|3R|3TURNED R|5WITH HOOK|3CAPITAL INVERTED R|3W|3Y|2PRIME"),
  (0x2BA, "0MODIFIER LETTER DOUBLE PRIME|2TURNED COMMA|2APOSTROPHE|2REVERSED COMMA|2RIGHT HALF RING|2LEFT HALF RING|2GLOTTAL STOP|2REVERSED GLOTTAL STOP"),
  (0x2C2, "0MODIFIER LETTER LEFT ARROWHEAD|2RIGHT ARROWHEAD|2UP ARROWHEAD|2DOWN ARROWHEAD|2CIRCUMFLEX ACCENT|0CARON|0MODIFIER LETTER VERTICAL LINE|2MACRON"),
  (0x2CA, "0MODIFIER LETTER ACUTE ACCENT|2GRAVE ACCENT|2LOW VERTICAL LINE|3MACRON|3GRAVE ACCENT|3ACUTE ACCENT|2TRIANGULAR COLON|2HALF TRIANGULAR COLON"),
  (0x2D2, "0MODIFIER LETTER CENTRED RIGHT HALF RING|3LEFT HALF RING|2UP TACK|2DOWN TACK|2PLUS SIGN|2MINUS SIGN|0BREVE|0DOT ABOVE|0RING ABOVE|0OGONEK|0SMALL TILDE"),
  (0x2DD, "0DOUBLE ACUTE ACCENT|0MODIFIER LETTER RHOTIC HOOK|2CROSS ACCENT|2SMALL GAMMA|3L|3S|3X|3REVERSED GLOTTAL STOP|2EXTRA-HIGH TONE BAR|2HIGH TONE BAR"),
  (0x2E7, "0MODIFIER LETTER MID TONE BAR|2LOW TONE BAR|2EXTRA-LOW TONE BAR|2YIN DEPARTING TONE MARK|2YANG DEPARTING TONE MARK|2VOICING|2UNASPIRATED"),
  (0x2EE, "0MODIFIER LETTER DOUBLE APOSTROPHE|2LOW DOWN ARROWHEAD|3UP ARROWHEAD|3LEFT ARROWHEAD|3RIGHT ARROWHEAD|3RING|2MIDDLE GRAVE ACCENT|3DOUBLE GRAVE ACCENT"),
  (0x2F6, "0MODIFIER LETTER MIDDLE DOUBLE ACUTE ACCENT|2LOW TILDE|2RAISED COLON|2BEGIN HIGH TONE|2END HIGH TONE|2BEGIN LOW TONE|2END LOW TONE|2SHELF|2OPEN SHELF"),
  (0x2FF, "0MODIFIER LETTER LOW LEFT ARROW|0COMBINING GRAVE ACCENT|1ACUTE ACCENT|1CIRCUMFLEX ACCENT|1TILDE|1MACRON|1OVERLINE|1BREVE|1DOT ABOVE|1DIAERESIS"),
  (0x309, "0COMBINING HOOK ABOVE|1RING ABOVE|1DOUBLE ACUTE ACCENT|1CARON|1VERTICAL LINE ABOVE|1DOUBLE VERTICAL LINE ABOVE|2GRAVE ACCENT|1CANDRABINDU"),
  (0x311, "0COMBINING INVERTED BREVE|1TURNED COMMA ABOVE|1COMMA ABOVE|1REVERSED COMMA ABOVE|1COMMA ABOVE RIGHT|1GRAVE ACCENT BELOW|1ACUTE ACCENT BELOW"),
  (0x318, "0COMBINING LEFT TACK BELOW|1RIGHT TACK BELOW|1LEFT ANGLE ABOVE|1HORN|1LEFT HALF RING BELOW|1UP TACK BELOW|1DOWN TACK BELOW|1PLUS SIGN BELOW"),
  (0x320, "0COMBINING MINUS SIGN BELOW|1PALATALIZED HOOK BELOW|1RETROFLEX HOOK BELOW|1DOT BELOW|1DIAERESIS BELOW|1RING BELOW|1COMMA BELOW|1CEDILLA|1OGONEK"),
  (0x329, "0COMBINING VERTICAL LINE BELOW|1BRIDGE BELOW|1INVERTED DOUBLE ARCH BELOW|1CARON BELOW|1CIRCUMFLEX ACCENT BELOW|1BREVE BELOW|1INVERTED BREVE BELOW"),
  (0x330, "0COMBINING TILDE BELOW|1MACRON BELOW|1LOW LINE|1DOUBLE LOW LINE|1TILDE OVERLAY|1SHORT STROKE OVERLAY|1LONG STROKE OVERLAY|1SHORT SOLIDUS OVERLAY"),
  (0x338, "0COMBINING LONG SOLIDUS OVERLAY|1RIGHT HALF RING BELOW|1INVERTED BRIDGE BELOW|1SQUARE BELOW|1SEAGULL BELOW|1X ABOVE|1VERTICAL TILDE|1DOUBLE OVERLINE"),
  (0x340, "0COMBINING GRAVE TONE MARK|1ACUTE TONE MARK|1GREEK PERISPOMENI|2KORONIS|2DIALYTIKA TONOS|2YPOGEGRAMMENI|1BRIDGE ABOVE|1EQUALS SIGN BELOW"),
  (0x348, "0COMBINING DOUBLE VERTICAL LINE BELOW|1LEFT ANGLE BELOW|1NOT TILDE ABOVE|1HOMOTHETIC ABOVE|1ALMOST EQUAL TO ABOVE|1LEFT RIGHT ARROW BELOW"),
  (0x34E, "0COMBINING UPWARDS ARROW BELOW|1GRAPHEME JOINER|1RIGHT ARROWHEAD ABOVE|1LEFT HALF RING ABOVE|1FERMATA|1X BELOW|1LEFT ARROWHEAD BELOW"),
  (0x355, "0COMBINING RIGHT ARROWHEAD BELOW|3AND UP ARROWHEAD BELOW|2HALF RING ABOVE|1DOT ABOVE RIGHT|1ASTERISK BELOW|1DOUBLE RING BELOW|1ZIGZAG ABOVE"),
  (0x35C, "0COMBINING DOUBLE BREVE BELOW|2BREVE|2MACRON|3BELOW|2TILDE|2INVERTED BREVE|2RIGHTWARDS ARROW BELOW|1LATIN SMALL LETTER A|4E|4I|4O|4U|4C|4D|4H|4M|4R|4T"),
  (0x36E, "0COMBINING LATIN SMALL LETTER V|4X|0GREEK CAPITAL LETTER HETA|1SMALL LETTER HETA|1CAPITAL LETTER ARCHAIC SAMPI|1SMALL LETTER ARCHAIC SAMPI"),
  (0x374, "0GREEK NUMERAL SIGN|1LOWER NUMERAL SIGN|1CAPITAL LETTER PAMPHYLIAN DIGAMMA|1SMALL LETTER PAMPHYLIAN DIGAMMA"),
  (0x37A, "0GREEK YPOGEGRAMMENI|1SMALL REVERSED LUNATE SIGMA SYMBOL|2DOTTED LUNATE SIGMA SYMBOL|2REVERSED DOTTED LUNATE SIGMA SYMBOL|1QUESTION MARK"),
  (0x37F, "0GREEK CAPITAL LETTER YOT"),
  (0x384, "0GREEK TONOS|1DIALYTIKA TONOS|1CAPITAL LETTER ALPHA WITH TONOS|1ANO TELEIA|1CAPITAL LETTER EPSILON WITH TONOS|3ETA WITH TONOS|3IOTA WITH TONOS"),
  (0x38C, "0GREEK CAPITAL LETTER OMICRON WITH TONOS"),
  (0x38E, "0GREEK CAPITAL LETTER UPSILON WITH TONOS|3OMEGA WITH TONOS|1SMALL LETTER IOTA WITH DIALYTIKA AND TONOS|1CAPITAL LETTER ALPHA|3BETA|3GAMMA|3DELTA"),
  (0x395, "0GREEK CAPITAL LETTER EPSILON|3ZETA|3ETA|3THETA|3IOTA|3KAPPA|3LAMDA|3MU|3NU|3XI|3OMICRON|3PI|3RHO"),
  (0x3A3, "0GREEK CAPITAL LETTER SIGMA|3TAU|3UPSILON|3PHI|3CHI|3PSI|3OMEGA|3IOTA WITH DIALYTIKA|3UPSILON WITH DIALYTIKA|1SMALL LETTER ALPHA WITH TONOS"),
  (0x3AD, "0GREEK SMALL LETTER EPSILON WITH TONOS|3ETA WITH TONOS|3IOTA WITH TONOS|3UPSILON WITH DIALYTIKA AND TONOS|3ALPHA|3BETA|3GAMMA|3DELTA|3EPSILON|3ZETA"),
  (0x3B7, "0GREEK SMALL LETTER ETA|3THETA|3IOTA|3KAPPA|3LAMDA|3MU|3NU|3XI|3OMICRON|3PI|3RHO|3FINAL SIGMA|3SIGMA|3TAU|3UPSILON|3PHI|3CHI|3PSI|3OMEGA"),
  (0x3CA, "0GREEK SMALL LETTER IOTA WITH DIALYTIKA|3UPSILON WITH DIALYTIKA|3OMICRON WITH TONOS|3UPSILON WITH TONOS|3OMEGA WITH TONOS|1CAPITAL KAI SYMBOL"),
  (0x3D0, "0GREEK BETA SYMBOL|1THETA SYMBOL|1UPSILON WITH HOOK SYMBOL|3ACUTE AND HOOK SYMBOL|3DIAERESIS AND HOOK SYMBOL|1PHI SYMBOL|1PI SYMBOL|1KAI SYMBOL"),
  (0x3D8, "0GREEK LETTER ARCHAIC KOPPA|1SMALL LETTER ARCHAIC KOPPA|1LETTER STIGMA|1SMALL LETTER STIGMA|1LETTER DIGAMMA|1SMALL LETTER DIGAMMA|1LETTER KOPPA"),
  (0x3DF, "0GREEK SMALL LETTER KOPPA|1LETTER SAMPI|1SMALL LETTER SAMPI|0COPTIC CAPITAL LETTER SHEI|1SMALL LETTER SHEI|1CAPITAL LETTER FEI|1SMALL LETTER FEI"),
  (0x3E6, "0COPTIC CAPITAL LETTER KHEI|1SMALL LETTER KHEI|1CAPITAL LETTER HORI|1SMALL LETTER HORI|1CAPITAL LETTER GANGIA|1SMALL LETTER GANGIA"),
  (0x3EC, "0COPTIC CAPITAL LETTER SHIMA|1SMALL LETTER SHIMA|1CAPITAL LETTER DEI|1SMALL LETTER DEI|0GREEK KAPPA SYMBOL|1RHO SYMBOL|1LUNATE SIGMA SYMBOL"),
  (0x3F3, "0GREEK LETTER YOT|1CAPITAL THETA SYMBOL|1LUNATE EPSILON SYMBOL|1REVERSED LUNATE EPSILON SYMBOL|1CAPITAL LETTER SHO|1SMALL LETTER SHO"),
  (0x3F9, "0GREEK CAPITAL LUNATE SIGMA SYMBOL|2LETTER SAN|1SMALL LETTER SAN|1RHO WITH STROKE SYMBOL|1CAPITAL REVERSED LUNATE SIGMA SYMBOL"),
  (0x3FE, "0GREEK CAPITAL DOTTED LUNATE SIGMA SYMBOL|2REVERSED DOTTED LUNATE SIGMA SYMBOL|0CYRILLIC CAPITAL LETTER IE WITH GRAVE|3IO|3DJE|3GJE|3UKRAINIAN IE|3DZE"),
  (0x406, "0CYRILLIC CAPITAL LETTER BYELORUSSIAN-UKRAINIAN I|3YI|3JE|3LJE|3NJE|3TSHE|3KJE|3I WITH GRAVE|3SHORT U|3DZHE|3A|3BE|3VE|3GHE|3DE|3IE|3ZHE|3ZE|3I"),
  (0x419, "0CYRILLIC CAPITAL LETTER SHORT I|3KA|3EL|3EM|3EN|3O|3PE|3ER|3ES|3TE|3U|3EF|3HA|3TSE|3CHE|3SHA|3SHCHA|3HARD SIGN|3YERU|3SOFT SIGN|3E|3YU|3YA"),
  (0x430, "0CYRILLIC SMALL LETTER A|3BE|3VE|3GHE|3DE|3IE|3ZHE|3ZE|3I|3SHORT I|3KA|3EL|3EM|3EN|3O|3PE|3ER|3ES|3TE|3U|3EF|3HA|3TSE|3CHE|3SHA|3SHCHA|3HARD SIGN"),
  (0x44B, "0CYRILLIC SMALL LETTER YERU|3SOFT SIGN|3E|3YU|3YA|3IE WITH GRAVE|3IO|3DJE|3GJE|3UKRAINIAN IE|3DZE|3BYELORUSSIAN-UKRAINIAN I|3YI|3JE|3LJE|3NJE|3TSHE"),
  (0x45C, "0CYRILLIC SMALL LETTER KJE|3I WITH GRAVE|3SHORT U|3DZHE|1CAPITAL LETTER OMEGA|1SMALL LETTER OMEGA|1CAPITAL LETTER YAT|1SMALL LETTER YAT"),
  (0x464, "0CYRILLIC CAPITAL LETTER IOTIFIED E|1SMALL LETTER IOTIFIED E|1CAPITAL LETTER LITTLE YUS|1SMALL LETTER LITTLE YUS|1CAPITAL LETTER IOTIFIED LITTLE YUS"),
  (0x469, "0CYRILLIC SMALL LETTER IOTIFIED LITTLE YUS|1CAPITAL LETTER BIG YUS|1SMALL LETTER BIG YUS|1CAPITAL LETTER IOTIFIED BIG YUS"),
  (0x46D, "0CYRILLIC SMALL LETTER IOTIFIED BIG YUS|1CAPITAL LETTER KSI|1SMALL LETTER KSI|1CAPITAL LETTER PSI|1SMALL LETTER PSI|1CAPITAL LETTER FITA"),
  (0x473, "0CYRILLIC SMALL LETTER FITA|1CAPITAL LETTER IZHITSA|1SMALL LETTER IZHITSA|1CAPITAL LETTER IZHITSA WITH DOUBLE GRAVE ACCENT"),
  (0x477, "0CYRILLIC SMALL LETTER IZHITSA WITH DOUBLE GRAVE ACCENT|1CAPITAL LETTER UK|1SMALL LETTER UK|1CAPITAL LETTER ROUND OMEGA|1SMALL LETTER ROUND OMEGA"),
  (0x47C, "0CYRILLIC CAPITAL LETTER OMEGA WITH TITLO|1SMALL LETTER OMEGA WITH TITLO|1CAPITAL LETTER OT|1SMALL LETTER OT|1CAPITAL LETTER KOPPA|1SMALL LETTER KOPPA"),
  (0x482, "0CYRILLIC THOUSANDS SIGN|0COMBINING CYRILLIC TITLO|2PALATALIZATION|2DASIA PNEUMATA|2PSILI PNEUMATA|2POKRYTIE|2HUNDRED THOUSANDS SIGN|2MILLIONS SIGN"),
  (0x48A, "0CYRILLIC CAPITAL LETTER SHORT I WITH TAIL|1SMALL LETTER SHORT I WITH TAIL|1CAPITAL LETTER SEMISOFT SIGN|1SMALL LETTER SEMISOFT SIGN"),
  (0x48E, "0CYRILLIC CAPITAL LETTER ER WITH TICK|1SMALL LETTER ER WITH TICK|1CAPITAL LETTER GHE WITH UPTURN|1SMALL LETTER GHE WITH UPTURN"),
  (0x492, "0CYRILLIC CAPITAL LETTER GHE WITH STROKE|1SMALL LETTER GHE WITH STROKE|1CAPITAL LETTER GHE WITH MIDDLE HOOK|1SMALL LETTER GHE WITH MIDDLE HOOK"),
  (0x496, "0CYRILLIC CAPITAL LETTER ZHE WITH DESCENDER|1SMALL LETTER ZHE WITH DESCENDER|1CAPITAL LETTER ZE WITH DESCENDER|1SMALL LETTER ZE WITH DESCENDER"),
  (0x49A, "0CYRILLIC CAPITAL LETTER KA WITH DESCENDER|1SMALL LETTER KA WITH DESCENDER|1CAPITAL LETTER KA WITH VERTICAL STROKE"),
  (0x49D, "0CYRILLIC SMALL LETTER KA WITH VERTICAL STROKE|1CAPITAL LETTER KA WITH STROKE|1SMALL LETTER KA WITH STROKE|1CAPITAL LETTER BASHKIR KA"),
  (0x4A1, "0CYRILLIC SMALL LETTER BASHKIR KA|1CAPITAL LETTER EN WITH DESCENDER|1SMALL LETTER EN WITH DESCENDER|1CAPITAL LIGATURE EN GHE|1SMALL LIGATURE EN GHE"),
  (0x4A6, "0CYRILLIC CAPITAL LETTER PE WITH MIDDLE HOOK|1SMALL LETTER PE WITH MIDDLE HOOK|1CAPITAL LETTER ABKHASIAN HA|1SMALL LETTER ABKHASIAN HA"),
  (0x4AA, "0CYRILLIC CAPITAL LETTER ES WITH DESCENDER|1SMALL LETTER ES WITH DESCENDER|1CAPITAL LETTER TE WITH DESCENDER|1SMALL LETTER TE WITH DESCENDER"),
  (0x4AE, "0CYRILLIC CAPITAL LETTER STRAIGHT U|1SMALL LETTER STRAIGHT U|1CAPITAL LETTER STRAIGHT U WITH STROKE|1SMALL LETTER STRAIGHT U WITH STROKE"),
  (0x4B2, "0CYRILLIC CAPITAL LETTER HA WITH DESCENDER|1SMALL LETTER HA WITH DESCENDER|1CAPITAL LIGATURE TE TSE|1SMALL LIGATURE TE TSE"),
  (0x4B6, "0CYRILLIC CAPITAL LETTER CHE WITH DESCENDER|1SMALL LETTER CHE WITH DESCENDER|1CAPITAL LETTER CHE WITH VERTICAL STROKE"),
  (0x4B9, "0CYRILLIC SMALL LETTER CHE WITH VERTICAL STROKE|1CAPITAL LETTER SHHA|1SMALL LETTER SHHA|1CAPITAL LETTER ABKHASIAN CHE|1SMALL LETTER ABKHASIAN CHE"),
  (0x4BE, "0CYRILLIC CAPITAL LETTER ABKHASIAN CHE WITH DESCENDER|1SMALL LETTER ABKHASIAN CHE WITH DESCENDER|1LETTER PALOCHKA|1CAPITAL LETTER ZHE WITH BREVE"),
  (0x4C2, "0CYRILLIC SMALL LETTER ZHE WITH BREVE|1CAPITAL LETTER KA WITH HOOK|1SMALL LETTER KA WITH HOOK|1CAPITAL LETTER EL WITH TAIL|1SMALL LETTER EL WITH TAIL"),
  (0x4C7, "0CYRILLIC CAPITAL LETTER EN WITH HOOK|1SMALL LETTER EN WITH HOOK|1CAPITAL LETTER EN WITH TAIL|1SMALL LETTER EN WITH TAIL"),
  (0x4CB, "0CYRILLIC CAPITAL LETTER KHAKASSIAN CHE|1SMALL LETTER KHAKASSIAN CHE|1CAPITAL LETTER EM WITH TAIL|1SMALL LETTER EM WITH TAIL|3PALOCHKA"),
  (0x4D0, "0CYRILLIC CAPITAL LETTER A WITH BREVE|1SMALL LETTER A WITH BREVE|1CAPITAL LETTER A WITH DIAERESIS|1SMALL LETTER A WITH DIAERESIS"),
  (0x4D4, "0CYRILLIC CAPITAL LIGATURE A IE|1SMALL LIGATURE A IE|1CAPITAL LETTER IE WITH BREVE|1SMALL LETTER IE WITH BREVE|1CAPITAL LETTER SCHWA"),
  (0x4D9, "0CYRILLIC SMALL LETTER SCHWA|1CAPITAL LETTER SCHWA WITH DIAERESIS|1SMALL LETTER SCHWA WITH DIAERESIS|1CAPITAL LETTER ZHE WITH DIAERESIS"),
  (0x4DD, "0CYRILLIC SMALL LETTER ZHE WITH DIAERESIS|1CAPITAL LETTER ZE WITH DIAERESIS|1SMALL LETTER ZE WITH DIAERESIS|1CAPITAL LETTER ABKHASIAN DZE"),
  (0x4E1, "0CYRILLIC SMALL LETTER ABKHASIAN DZE|1CAPITAL LETTER I WITH MACRON|1SMALL LETTER I WITH MACRON|1CAPITAL LETTER I WITH DIAERESIS"),
  (0x4E5, "0CYRILLIC SMALL LETTER I WITH DIAERESIS|1CAPITAL LETTER O WITH DIAERESIS|1SMALL LETTER O WITH DIAERESIS|1CAPITAL LETTER BARRED O"),
  (0x4E9, "0CYRILLIC SMALL LETTER BARRED O|1CAPITAL LETTER BARRED O WITH DIAERESIS|1SMALL LETTER BARRED O WITH DIAERESIS|1CAPITAL LETTER E WITH DIAERESIS"),
  (0x4ED, "0CYRILLIC SMALL LETTER E WITH DIAERESIS|1CAPITAL LETTER U WITH MACRON|1SMALL LETTER U WITH MACRON|1CAPITAL LETTER U WITH DIAERESIS"),
  (0x4F1, "0CYRILLIC SMALL LETTER U WITH DIAERESIS|1CAPITAL LETTER U WITH DOUBLE ACUTE|1SMALL LETTER U WITH DOUBLE ACUTE|1CAPITAL LETTER CHE WITH DIAERESIS"),
  (0x4F5, "0CYRILLIC SMALL LETTER CHE WITH DIAERESIS|1CAPITAL LETTER GHE WITH DESCENDER|1SMALL LETTER GHE WITH DESCENDER|1CAPITAL LETTER YERU WITH DIAERESIS"),
  (0x4F9, "0CYRILLIC SMALL LETTER YERU WITH DIAERESIS|1CAPITAL LETTER GHE WITH STROKE AND HOOK|1SMALL LETTER GHE WITH STROKE AND HOOK"),
  (0x4FC, "0CYRILLIC CAPITAL LETTER HA WITH HOOK|1SMALL LETTER HA WITH HOOK|1CAPITAL LETTER HA WITH STROKE|1SMALL LETTER HA WITH STROKE|1CAPITAL LETTER KOMI DE"),
  (0x501, "0CYRILLIC SMALL LETTER KOMI DE|1CAPITAL LETTER KOMI DJE|1SMALL LETTER KOMI DJE|1CAPITAL LETTER KOMI ZJE|1SMALL LETTER KOMI ZJE"),
  (0x506, "0CYRILLIC CAPITAL LETTER KOMI DZJE|1SMALL LETTER KOMI DZJE|1CAPITAL LETTER KOMI LJE|1SMALL LETTER KOMI LJE|1CAPITAL LETTER KOMI NJE"),
  (0x50B, "0CYRILLIC SMALL LETTER KOMI NJE|1CAPITAL LETTER KOMI SJE|1SMALL LETTER KOMI SJE|1CAPITAL LETTER KOMI TJE|1SMALL LETTER KOMI TJE"),
  (0x510, "0CYRILLIC CAPITAL LETTER REVERSED ZE|1SMALL LETTER REVERSED ZE|1CAPITAL LETTER EL WITH HOOK|1SMALL LETTER EL WITH HOOK|1CAPITAL LETTER LHA"),
  (0x515, "0CYRILLIC SMALL LETTER LHA|1CAPITAL LETTER RHA|1SMALL LETTER RHA|1CAPITAL LETTER YAE|1SMALL LETTER YAE|1CAPITAL LETTER QA|1SMALL LETTER QA"),
  (0x51C, "0CYRILLIC CAPITAL LETTER WE|1SMALL LETTER WE|1CAPITAL LETTER ALEUT KA|1SMALL LETTER ALEUT KA|1CAPITAL LETTER EL WITH MIDDLE HOOK"),
  (0x521, "0CYRILLIC SMALL LETTER EL WITH MIDDLE HOOK|1CAPITAL LETTER EN WITH MIDDLE HOOK|1SMALL LETTER EN WITH MIDDLE HOOK|1CAPITAL LETTER PE WITH DESCENDER"),
  (0x525, "0CYRILLIC SMALL LETTER PE WITH DESCENDER|1CAPITAL LETTER SHHA WITH DESCENDER|1SMALL LETTER SHHA WITH DESCENDER|1CAPITAL LETTER EN WITH LEFT HOOK"),
  (0x529, "0CYRILLIC SMALL LETTER EN WITH LEFT HOOK|1CAPITAL LETTER DZZHE|1SMALL LETTER DZZHE|1CAPITAL LETTER DCHE|1SMALL LETTER DCHE"),
  (0x52E, "0CYRILLIC CAPITAL LETTER EL WITH DESCENDER|1SMALL LETTER EL WITH DESCENDER"),
  (0x531, "0ARMENIAN CAPITAL LETTER AYB|3BEN|3GIM|3DA|3ECH|3ZA|3EH|3ET|3TO|3ZHE|3INI|3LIWN|3XEH|3CA|3KEN|3HO|3JA|3GHAD|3CHEH|3MEN|3YI|3NOW|3SHA|3VO|3CHA|3PEH"),
  (0x54B, "0ARMENIAN CAPITAL LETTER JHEH|3RA|3SEH|3VEW|3TIWN|3REH|3CO|3YIWN|3PIWR|3KEH|3OH|3FEH"),
  (0x559, "0ARMENIAN MODIFIER LETTER LEFT HALF RING|1APOSTROPHE|1EMPHASIS MARK|1EXCLAMATION MARK|1COMMA|1QUESTION MARK|1ABBREVIATION MARK"),
  (0x560, "0ARMENIAN SMALL LETTER TURNED AYB|3AYB|3BEN|3GIM|3DA|3ECH|3ZA|3EH|3ET|3TO|3ZHE|3INI|3LIWN|3XEH|3CA|3KEN|3HO|3JA|3GHAD|3CHEH|3MEN|3YI|3NOW|3SHA|3VO"),
  (0x579, "0ARMENIAN SMALL LETTER CHA|3PEH|3JHEH|3RA|3SEH|3VEW|3TIWN|3REH|3CO|3YIWN|3PIWR|3KEH|3OH|3FEH|2LIGATURE ECH YIWN|2LETTER YI WITH STROKE|1FULL STOP"),
  (0x58A, "0ARMENIAN HYPHEN"),
  (0x58D, "0RIGHT-FACING ARMENIAN ETERNITY SIGN|0LEFT-FACING ARMENIAN ETERNITY SIGN|0ARMENIAN DRAM SIGN")]

end CharName
end ScopeChain
