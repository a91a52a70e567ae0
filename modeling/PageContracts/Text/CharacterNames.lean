import PageContracts.Number.Reading
import PageContracts.Text.Characters

/-! # Character names

The names of characters in common use: those of the Latin, Greek, Cyrillic and Hebrew letters, of
punctuation, of signs and of some pictures.
-/
namespace PageContracts.CharacterNames

/-- The names of the characters from a first one on; where a character has none, nothing stands. -/
def blocks : List (Nat × String) :=
  [(0x20,
      "SPACE|EXCLAMATION MARK|QUOTATION MARK|NUMBER SIGN|DOLLAR SIGN|PERCENT SIGN|AMPERSAND|" ++
      "APOSTROPHE|LEFT PARENTHESIS|RIGHT PARENTHESIS|ASTERISK|PLUS SIGN|COMMA|HYPHEN-MINUS|FULL " ++
      "STOP|SOLIDUS|DIGIT ZERO|DIGIT ONE|DIGIT TWO|DIGIT THREE|DIGIT FOUR|DIGIT FIVE|DIGIT SIX|" ++
      "DIGIT SEVEN|DIGIT EIGHT|DIGIT NINE|COLON|SEMICOLON|LESS-THAN SIGN|EQUALS SIGN|GREATER-THAN " ++
      "SIGN|QUESTION MARK|COMMERCIAL AT|LATIN CAPITAL LETTER A|LATIN CAPITAL LETTER B|LATIN " ++
      "CAPITAL LETTER C|LATIN CAPITAL LETTER D|LATIN CAPITAL LETTER E|LATIN CAPITAL LETTER F|LATIN " ++
      "CAPITAL LETTER G|LATIN CAPITAL LETTER H|LATIN CAPITAL LETTER I|LATIN CAPITAL LETTER J|LATIN " ++
      "CAPITAL LETTER K|LATIN CAPITAL LETTER L|LATIN CAPITAL LETTER M|LATIN CAPITAL LETTER N|LATIN " ++
      "CAPITAL LETTER O|LATIN CAPITAL LETTER P|LATIN CAPITAL LETTER Q|LATIN CAPITAL LETTER R|LATIN " ++
      "CAPITAL LETTER S|LATIN CAPITAL LETTER T|LATIN CAPITAL LETTER U|LATIN CAPITAL LETTER V|LATIN " ++
      "CAPITAL LETTER W|LATIN CAPITAL LETTER X|LATIN CAPITAL LETTER Y|LATIN CAPITAL LETTER Z|LEFT " ++
      "SQUARE BRACKET|REVERSE SOLIDUS|RIGHT SQUARE BRACKET|CIRCUMFLEX ACCENT|LOW LINE|GRAVE ACCENT|" ++
      "LATIN SMALL LETTER A|LATIN SMALL LETTER B|LATIN SMALL LETTER C|LATIN SMALL LETTER D|LATIN " ++
      "SMALL LETTER E|LATIN SMALL LETTER F|LATIN SMALL LETTER G|LATIN SMALL LETTER H|LATIN SMALL " ++
      "LETTER I|LATIN SMALL LETTER J|LATIN SMALL LETTER K|LATIN SMALL LETTER L|LATIN SMALL LETTER " ++
      "M|LATIN SMALL LETTER N|LATIN SMALL LETTER O|LATIN SMALL LETTER P|LATIN SMALL LETTER Q|LATIN " ++
      "SMALL LETTER R|LATIN SMALL LETTER S|LATIN SMALL LETTER T|LATIN SMALL LETTER U|LATIN SMALL " ++
      "LETTER V|LATIN SMALL LETTER W|LATIN SMALL LETTER X|LATIN SMALL LETTER Y|LATIN SMALL LETTER " ++
      "Z|LEFT CURLY BRACKET|VERTICAL LINE|RIGHT CURLY BRACKET|TILDE"),
    (0xA0,
      "NO-BREAK SPACE|INVERTED EXCLAMATION MARK|CENT SIGN|POUND SIGN|CURRENCY SIGN|YEN SIGN|BROKEN " ++
      "BAR|SECTION SIGN|DIAERESIS|COPYRIGHT SIGN|FEMININE ORDINAL INDICATOR|LEFT-POINTING DOUBLE " ++
      "ANGLE QUOTATION MARK|NOT SIGN|SOFT HYPHEN|REGISTERED SIGN|MACRON|DEGREE SIGN|PLUS-MINUS " ++
      "SIGN|SUPERSCRIPT TWO|SUPERSCRIPT THREE|ACUTE ACCENT|MICRO SIGN|PILCROW SIGN|MIDDLE DOT|" ++
      "CEDILLA|SUPERSCRIPT ONE|MASCULINE ORDINAL INDICATOR|RIGHT-POINTING DOUBLE ANGLE QUOTATION " ++
      "MARK|VULGAR FRACTION ONE QUARTER|VULGAR FRACTION ONE HALF|VULGAR FRACTION THREE QUARTERS|" ++
      "INVERTED QUESTION MARK|LATIN CAPITAL LETTER A WITH GRAVE|LATIN CAPITAL LETTER A WITH ACUTE|" ++
      "LATIN CAPITAL LETTER A WITH CIRCUMFLEX|LATIN CAPITAL LETTER A WITH TILDE|LATIN CAPITAL " ++
      "LETTER A WITH DIAERESIS|LATIN CAPITAL LETTER A WITH RING ABOVE|LATIN CAPITAL LETTER AE|" ++
      "LATIN CAPITAL LETTER C WITH CEDILLA|LATIN CAPITAL LETTER E WITH GRAVE|LATIN CAPITAL LETTER " ++
      "E WITH ACUTE|LATIN CAPITAL LETTER E WITH CIRCUMFLEX|LATIN CAPITAL LETTER E WITH DIAERESIS|" ++
      "LATIN CAPITAL LETTER I WITH GRAVE|LATIN CAPITAL LETTER I WITH ACUTE|LATIN CAPITAL LETTER I " ++
      "WITH CIRCUMFLEX|LATIN CAPITAL LETTER I WITH DIAERESIS|LATIN CAPITAL LETTER ETH|LATIN " ++
      "CAPITAL LETTER N WITH TILDE|LATIN CAPITAL LETTER O WITH GRAVE|LATIN CAPITAL LETTER O WITH " ++
      "ACUTE|LATIN CAPITAL LETTER O WITH CIRCUMFLEX|LATIN CAPITAL LETTER O WITH TILDE|LATIN " ++
      "CAPITAL LETTER O WITH DIAERESIS|MULTIPLICATION SIGN|LATIN CAPITAL LETTER O WITH STROKE|" ++
      "LATIN CAPITAL LETTER U WITH GRAVE|LATIN CAPITAL LETTER U WITH ACUTE|LATIN CAPITAL LETTER U " ++
      "WITH CIRCUMFLEX|LATIN CAPITAL LETTER U WITH DIAERESIS|LATIN CAPITAL LETTER Y WITH ACUTE|" ++
      "LATIN CAPITAL LETTER THORN|LATIN SMALL LETTER SHARP S|LATIN SMALL LETTER A WITH GRAVE|LATIN " ++
      "SMALL LETTER A WITH ACUTE|LATIN SMALL LETTER A WITH CIRCUMFLEX|LATIN SMALL LETTER A WITH " ++
      "TILDE|LATIN SMALL LETTER A WITH DIAERESIS|LATIN SMALL LETTER A WITH RING ABOVE|LATIN SMALL " ++
      "LETTER AE|LATIN SMALL LETTER C WITH CEDILLA|LATIN SMALL LETTER E WITH GRAVE|LATIN SMALL " ++
      "LETTER E WITH ACUTE|LATIN SMALL LETTER E WITH CIRCUMFLEX|LATIN SMALL LETTER E WITH " ++
      "DIAERESIS|LATIN SMALL LETTER I WITH GRAVE|LATIN SMALL LETTER I WITH ACUTE|LATIN SMALL " ++
      "LETTER I WITH CIRCUMFLEX|LATIN SMALL LETTER I WITH DIAERESIS|LATIN SMALL LETTER ETH|LATIN " ++
      "SMALL LETTER N WITH TILDE|LATIN SMALL LETTER O WITH GRAVE|LATIN SMALL LETTER O WITH ACUTE|" ++
      "LATIN SMALL LETTER O WITH CIRCUMFLEX|LATIN SMALL LETTER O WITH TILDE|LATIN SMALL LETTER O " ++
      "WITH DIAERESIS|DIVISION SIGN|LATIN SMALL LETTER O WITH STROKE|LATIN SMALL LETTER U WITH " ++
      "GRAVE|LATIN SMALL LETTER U WITH ACUTE|LATIN SMALL LETTER U WITH CIRCUMFLEX|LATIN SMALL " ++
      "LETTER U WITH DIAERESIS|LATIN SMALL LETTER Y WITH ACUTE|LATIN SMALL LETTER THORN|LATIN " ++
      "SMALL LETTER Y WITH DIAERESIS|LATIN CAPITAL LETTER A WITH MACRON|LATIN SMALL LETTER A WITH " ++
      "MACRON|LATIN CAPITAL LETTER A WITH BREVE|LATIN SMALL LETTER A WITH BREVE|LATIN CAPITAL " ++
      "LETTER A WITH OGONEK|LATIN SMALL LETTER A WITH OGONEK|LATIN CAPITAL LETTER C WITH ACUTE|" ++
      "LATIN SMALL LETTER C WITH ACUTE|LATIN CAPITAL LETTER C WITH CIRCUMFLEX|LATIN SMALL LETTER C " ++
      "WITH CIRCUMFLEX|LATIN CAPITAL LETTER C WITH DOT ABOVE|LATIN SMALL LETTER C WITH DOT ABOVE|" ++
      "LATIN CAPITAL LETTER C WITH CARON|LATIN SMALL LETTER C WITH CARON|LATIN CAPITAL LETTER D " ++
      "WITH CARON|LATIN SMALL LETTER D WITH CARON|LATIN CAPITAL LETTER D WITH STROKE|LATIN SMALL " ++
      "LETTER D WITH STROKE|LATIN CAPITAL LETTER E WITH MACRON|LATIN SMALL LETTER E WITH MACRON|" ++
      "LATIN CAPITAL LETTER E WITH BREVE|LATIN SMALL LETTER E WITH BREVE|LATIN CAPITAL LETTER E " ++
      "WITH DOT ABOVE|LATIN SMALL LETTER E WITH DOT ABOVE|LATIN CAPITAL LETTER E WITH OGONEK|LATIN " ++
      "SMALL LETTER E WITH OGONEK|LATIN CAPITAL LETTER E WITH CARON|LATIN SMALL LETTER E WITH " ++
      "CARON|LATIN CAPITAL LETTER G WITH CIRCUMFLEX|LATIN SMALL LETTER G WITH CIRCUMFLEX|LATIN " ++
      "CAPITAL LETTER G WITH BREVE|LATIN SMALL LETTER G WITH BREVE|LATIN CAPITAL LETTER G WITH DOT " ++
      "ABOVE|LATIN SMALL LETTER G WITH DOT ABOVE|LATIN CAPITAL LETTER G WITH CEDILLA|LATIN SMALL " ++
      "LETTER G WITH CEDILLA|LATIN CAPITAL LETTER H WITH CIRCUMFLEX|LATIN SMALL LETTER H WITH " ++
      "CIRCUMFLEX|LATIN CAPITAL LETTER H WITH STROKE|LATIN SMALL LETTER H WITH STROKE|LATIN " ++
      "CAPITAL LETTER I WITH TILDE|LATIN SMALL LETTER I WITH TILDE|LATIN CAPITAL LETTER I WITH " ++
      "MACRON|LATIN SMALL LETTER I WITH MACRON|LATIN CAPITAL LETTER I WITH BREVE|LATIN SMALL " ++
      "LETTER I WITH BREVE|LATIN CAPITAL LETTER I WITH OGONEK|LATIN SMALL LETTER I WITH OGONEK|" ++
      "LATIN CAPITAL LETTER I WITH DOT ABOVE|LATIN SMALL LETTER DOTLESS I|LATIN CAPITAL LIGATURE " ++
      "IJ|LATIN SMALL LIGATURE IJ|LATIN CAPITAL LETTER J WITH CIRCUMFLEX|LATIN SMALL LETTER J WITH " ++
      "CIRCUMFLEX|LATIN CAPITAL LETTER K WITH CEDILLA|LATIN SMALL LETTER K WITH CEDILLA|LATIN " ++
      "SMALL LETTER KRA|LATIN CAPITAL LETTER L WITH ACUTE|LATIN SMALL LETTER L WITH ACUTE|LATIN " ++
      "CAPITAL LETTER L WITH CEDILLA|LATIN SMALL LETTER L WITH CEDILLA|LATIN CAPITAL LETTER L WITH " ++
      "CARON|LATIN SMALL LETTER L WITH CARON|LATIN CAPITAL LETTER L WITH MIDDLE DOT|LATIN SMALL " ++
      "LETTER L WITH MIDDLE DOT|LATIN CAPITAL LETTER L WITH STROKE|LATIN SMALL LETTER L WITH " ++
      "STROKE|LATIN CAPITAL LETTER N WITH ACUTE|LATIN SMALL LETTER N WITH ACUTE|LATIN CAPITAL " ++
      "LETTER N WITH CEDILLA|LATIN SMALL LETTER N WITH CEDILLA|LATIN CAPITAL LETTER N WITH CARON|" ++
      "LATIN SMALL LETTER N WITH CARON|LATIN SMALL LETTER N PRECEDED BY APOSTROPHE|LATIN CAPITAL " ++
      "LETTER ENG|LATIN SMALL LETTER ENG|LATIN CAPITAL LETTER O WITH MACRON|LATIN SMALL LETTER O " ++
      "WITH MACRON|LATIN CAPITAL LETTER O WITH BREVE|LATIN SMALL LETTER O WITH BREVE|LATIN CAPITAL " ++
      "LETTER O WITH DOUBLE ACUTE|LATIN SMALL LETTER O WITH DOUBLE ACUTE|LATIN CAPITAL LIGATURE OE|" ++
      "LATIN SMALL LIGATURE OE|LATIN CAPITAL LETTER R WITH ACUTE|LATIN SMALL LETTER R WITH ACUTE|" ++
      "LATIN CAPITAL LETTER R WITH CEDILLA|LATIN SMALL LETTER R WITH CEDILLA|LATIN CAPITAL LETTER " ++
      "R WITH CARON|LATIN SMALL LETTER R WITH CARON|LATIN CAPITAL LETTER S WITH ACUTE|LATIN SMALL " ++
      "LETTER S WITH ACUTE|LATIN CAPITAL LETTER S WITH CIRCUMFLEX|LATIN SMALL LETTER S WITH " ++
      "CIRCUMFLEX|LATIN CAPITAL LETTER S WITH CEDILLA|LATIN SMALL LETTER S WITH CEDILLA|LATIN " ++
      "CAPITAL LETTER S WITH CARON|LATIN SMALL LETTER S WITH CARON|LATIN CAPITAL LETTER T WITH " ++
      "CEDILLA|LATIN SMALL LETTER T WITH CEDILLA|LATIN CAPITAL LETTER T WITH CARON|LATIN SMALL " ++
      "LETTER T WITH CARON|LATIN CAPITAL LETTER T WITH STROKE|LATIN SMALL LETTER T WITH STROKE|" ++
      "LATIN CAPITAL LETTER U WITH TILDE|LATIN SMALL LETTER U WITH TILDE|LATIN CAPITAL LETTER U " ++
      "WITH MACRON|LATIN SMALL LETTER U WITH MACRON|LATIN CAPITAL LETTER U WITH BREVE|LATIN SMALL " ++
      "LETTER U WITH BREVE|LATIN CAPITAL LETTER U WITH RING ABOVE|LATIN SMALL LETTER U WITH RING " ++
      "ABOVE|LATIN CAPITAL LETTER U WITH DOUBLE ACUTE|LATIN SMALL LETTER U WITH DOUBLE ACUTE|LATIN " ++
      "CAPITAL LETTER U WITH OGONEK|LATIN SMALL LETTER U WITH OGONEK|LATIN CAPITAL LETTER W WITH " ++
      "CIRCUMFLEX|LATIN SMALL LETTER W WITH CIRCUMFLEX|LATIN CAPITAL LETTER Y WITH CIRCUMFLEX|" ++
      "LATIN SMALL LETTER Y WITH CIRCUMFLEX|LATIN CAPITAL LETTER Y WITH DIAERESIS|LATIN CAPITAL " ++
      "LETTER Z WITH ACUTE|LATIN SMALL LETTER Z WITH ACUTE|LATIN CAPITAL LETTER Z WITH DOT ABOVE|" ++
      "LATIN SMALL LETTER Z WITH DOT ABOVE|LATIN CAPITAL LETTER Z WITH CARON|LATIN SMALL LETTER Z " ++
      "WITH CARON|LATIN SMALL LETTER LONG S"),
    (0x386,
      "GREEK CAPITAL LETTER ALPHA WITH TONOS|GREEK ANO TELEIA|GREEK CAPITAL LETTER EPSILON WITH " ++
      "TONOS|GREEK CAPITAL LETTER ETA WITH TONOS|GREEK CAPITAL LETTER IOTA WITH TONOS||GREEK " ++
      "CAPITAL LETTER OMICRON WITH TONOS||GREEK CAPITAL LETTER UPSILON WITH TONOS|GREEK CAPITAL " ++
      "LETTER OMEGA WITH TONOS|GREEK SMALL LETTER IOTA WITH DIALYTIKA AND TONOS|GREEK CAPITAL " ++
      "LETTER ALPHA|GREEK CAPITAL LETTER BETA|GREEK CAPITAL LETTER GAMMA|GREEK CAPITAL LETTER " ++
      "DELTA|GREEK CAPITAL LETTER EPSILON|GREEK CAPITAL LETTER ZETA|GREEK CAPITAL LETTER ETA|GREEK " ++
      "CAPITAL LETTER THETA|GREEK CAPITAL LETTER IOTA|GREEK CAPITAL LETTER KAPPA|GREEK CAPITAL " ++
      "LETTER LAMDA|GREEK CAPITAL LETTER MU|GREEK CAPITAL LETTER NU|GREEK CAPITAL LETTER XI|GREEK " ++
      "CAPITAL LETTER OMICRON|GREEK CAPITAL LETTER PI|GREEK CAPITAL LETTER RHO||GREEK CAPITAL " ++
      "LETTER SIGMA|GREEK CAPITAL LETTER TAU|GREEK CAPITAL LETTER UPSILON|GREEK CAPITAL LETTER PHI|" ++
      "GREEK CAPITAL LETTER CHI|GREEK CAPITAL LETTER PSI|GREEK CAPITAL LETTER OMEGA|GREEK CAPITAL " ++
      "LETTER IOTA WITH DIALYTIKA|GREEK CAPITAL LETTER UPSILON WITH DIALYTIKA|GREEK SMALL LETTER " ++
      "ALPHA WITH TONOS|GREEK SMALL LETTER EPSILON WITH TONOS|GREEK SMALL LETTER ETA WITH TONOS|" ++
      "GREEK SMALL LETTER IOTA WITH TONOS|GREEK SMALL LETTER UPSILON WITH DIALYTIKA AND TONOS|" ++
      "GREEK SMALL LETTER ALPHA|GREEK SMALL LETTER BETA|GREEK SMALL LETTER GAMMA|GREEK SMALL " ++
      "LETTER DELTA|GREEK SMALL LETTER EPSILON|GREEK SMALL LETTER ZETA|GREEK SMALL LETTER ETA|" ++
      "GREEK SMALL LETTER THETA|GREEK SMALL LETTER IOTA|GREEK SMALL LETTER KAPPA|GREEK SMALL " ++
      "LETTER LAMDA|GREEK SMALL LETTER MU|GREEK SMALL LETTER NU|GREEK SMALL LETTER XI|GREEK SMALL " ++
      "LETTER OMICRON|GREEK SMALL LETTER PI|GREEK SMALL LETTER RHO|GREEK SMALL LETTER FINAL SIGMA|" ++
      "GREEK SMALL LETTER SIGMA|GREEK SMALL LETTER TAU|GREEK SMALL LETTER UPSILON|GREEK SMALL " ++
      "LETTER PHI|GREEK SMALL LETTER CHI|GREEK SMALL LETTER PSI|GREEK SMALL LETTER OMEGA|GREEK " ++
      "SMALL LETTER IOTA WITH DIALYTIKA|GREEK SMALL LETTER UPSILON WITH DIALYTIKA|GREEK SMALL " ++
      "LETTER OMICRON WITH TONOS|GREEK SMALL LETTER UPSILON WITH TONOS|GREEK SMALL LETTER OMEGA " ++
      "WITH TONOS"),
    (0x401,
      "CYRILLIC CAPITAL LETTER IO|CYRILLIC CAPITAL LETTER DJE|CYRILLIC CAPITAL LETTER GJE|CYRILLIC " ++
      "CAPITAL LETTER UKRAINIAN IE|CYRILLIC CAPITAL LETTER DZE|CYRILLIC CAPITAL LETTER " ++
      "BYELORUSSIAN-UKRAINIAN I|CYRILLIC CAPITAL LETTER YI|CYRILLIC CAPITAL LETTER JE|CYRILLIC " ++
      "CAPITAL LETTER LJE|CYRILLIC CAPITAL LETTER NJE|CYRILLIC CAPITAL LETTER TSHE|CYRILLIC " ++
      "CAPITAL LETTER KJE|CYRILLIC CAPITAL LETTER I WITH GRAVE|CYRILLIC CAPITAL LETTER SHORT U|" ++
      "CYRILLIC CAPITAL LETTER DZHE|CYRILLIC CAPITAL LETTER A|CYRILLIC CAPITAL LETTER BE|CYRILLIC " ++
      "CAPITAL LETTER VE|CYRILLIC CAPITAL LETTER GHE|CYRILLIC CAPITAL LETTER DE|CYRILLIC CAPITAL " ++
      "LETTER IE|CYRILLIC CAPITAL LETTER ZHE|CYRILLIC CAPITAL LETTER ZE|CYRILLIC CAPITAL LETTER I|" ++
      "CYRILLIC CAPITAL LETTER SHORT I|CYRILLIC CAPITAL LETTER KA|CYRILLIC CAPITAL LETTER EL|" ++
      "CYRILLIC CAPITAL LETTER EM|CYRILLIC CAPITAL LETTER EN|CYRILLIC CAPITAL LETTER O|CYRILLIC " ++
      "CAPITAL LETTER PE|CYRILLIC CAPITAL LETTER ER|CYRILLIC CAPITAL LETTER ES|CYRILLIC CAPITAL " ++
      "LETTER TE|CYRILLIC CAPITAL LETTER U|CYRILLIC CAPITAL LETTER EF|CYRILLIC CAPITAL LETTER HA|" ++
      "CYRILLIC CAPITAL LETTER TSE|CYRILLIC CAPITAL LETTER CHE|CYRILLIC CAPITAL LETTER SHA|" ++
      "CYRILLIC CAPITAL LETTER SHCHA|CYRILLIC CAPITAL LETTER HARD SIGN|CYRILLIC CAPITAL LETTER " ++
      "YERU|CYRILLIC CAPITAL LETTER SOFT SIGN|CYRILLIC CAPITAL LETTER E|CYRILLIC CAPITAL LETTER YU|" ++
      "CYRILLIC CAPITAL LETTER YA|CYRILLIC SMALL LETTER A|CYRILLIC SMALL LETTER BE|CYRILLIC SMALL " ++
      "LETTER VE|CYRILLIC SMALL LETTER GHE|CYRILLIC SMALL LETTER DE|CYRILLIC SMALL LETTER IE|" ++
      "CYRILLIC SMALL LETTER ZHE|CYRILLIC SMALL LETTER ZE|CYRILLIC SMALL LETTER I|CYRILLIC SMALL " ++
      "LETTER SHORT I|CYRILLIC SMALL LETTER KA|CYRILLIC SMALL LETTER EL|CYRILLIC SMALL LETTER EM|" ++
      "CYRILLIC SMALL LETTER EN|CYRILLIC SMALL LETTER O|CYRILLIC SMALL LETTER PE|CYRILLIC SMALL " ++
      "LETTER ER|CYRILLIC SMALL LETTER ES|CYRILLIC SMALL LETTER TE|CYRILLIC SMALL LETTER U|" ++
      "CYRILLIC SMALL LETTER EF|CYRILLIC SMALL LETTER HA|CYRILLIC SMALL LETTER TSE|CYRILLIC SMALL " ++
      "LETTER CHE|CYRILLIC SMALL LETTER SHA|CYRILLIC SMALL LETTER SHCHA|CYRILLIC SMALL LETTER HARD " ++
      "SIGN|CYRILLIC SMALL LETTER YERU|CYRILLIC SMALL LETTER SOFT SIGN|CYRILLIC SMALL LETTER E|" ++
      "CYRILLIC SMALL LETTER YU|CYRILLIC SMALL LETTER YA|CYRILLIC SMALL LETTER IE WITH GRAVE|" ++
      "CYRILLIC SMALL LETTER IO|CYRILLIC SMALL LETTER DJE|CYRILLIC SMALL LETTER GJE|CYRILLIC SMALL " ++
      "LETTER UKRAINIAN IE|CYRILLIC SMALL LETTER DZE|CYRILLIC SMALL LETTER BYELORUSSIAN-UKRAINIAN " ++
      "I|CYRILLIC SMALL LETTER YI|CYRILLIC SMALL LETTER JE|CYRILLIC SMALL LETTER LJE|CYRILLIC " ++
      "SMALL LETTER NJE|CYRILLIC SMALL LETTER TSHE|CYRILLIC SMALL LETTER KJE|CYRILLIC SMALL LETTER " ++
      "I WITH GRAVE|CYRILLIC SMALL LETTER SHORT U|CYRILLIC SMALL LETTER DZHE"),
    (0x5D0,
      "HEBREW LETTER ALEF|HEBREW LETTER BET|HEBREW LETTER GIMEL|HEBREW LETTER DALET|HEBREW LETTER " ++
      "HE|HEBREW LETTER VAV|HEBREW LETTER ZAYIN|HEBREW LETTER HET|HEBREW LETTER TET|HEBREW LETTER " ++
      "YOD|HEBREW LETTER FINAL KAF|HEBREW LETTER KAF|HEBREW LETTER LAMED|HEBREW LETTER FINAL MEM|" ++
      "HEBREW LETTER MEM|HEBREW LETTER FINAL NUN|HEBREW LETTER NUN|HEBREW LETTER SAMEKH|HEBREW " ++
      "LETTER AYIN|HEBREW LETTER FINAL PE|HEBREW LETTER PE|HEBREW LETTER FINAL TSADI|HEBREW LETTER " ++
      "TSADI|HEBREW LETTER QOF|HEBREW LETTER RESH|HEBREW LETTER SHIN|HEBREW LETTER TAV"),
    (0x1E9E,
      "LATIN CAPITAL LETTER SHARP S"),
    (0x2010,
      "HYPHEN|NON-BREAKING HYPHEN|FIGURE DASH|EN DASH|EM DASH|HORIZONTAL BAR|DOUBLE VERTICAL LINE|" ++
      "DOUBLE LOW LINE|LEFT SINGLE QUOTATION MARK|RIGHT SINGLE QUOTATION MARK|SINGLE LOW-9 " ++
      "QUOTATION MARK|SINGLE HIGH-REVERSED-9 QUOTATION MARK|LEFT DOUBLE QUOTATION MARK|RIGHT " ++
      "DOUBLE QUOTATION MARK|DOUBLE LOW-9 QUOTATION MARK|DOUBLE HIGH-REVERSED-9 QUOTATION MARK|" ++
      "DAGGER|DOUBLE DAGGER|BULLET|TRIANGULAR BULLET|ONE DOT LEADER|TWO DOT LEADER|HORIZONTAL " ++
      "ELLIPSIS|HYPHENATION POINT"),
    (0x2030,
      "PER MILLE SIGN|PER TEN THOUSAND SIGN|PRIME|DOUBLE PRIME|TRIPLE PRIME|REVERSED PRIME|" ++
      "REVERSED DOUBLE PRIME|REVERSED TRIPLE PRIME|CARET|SINGLE LEFT-POINTING ANGLE QUOTATION MARK|" ++
      "SINGLE RIGHT-POINTING ANGLE QUOTATION MARK|REFERENCE MARK|DOUBLE EXCLAMATION MARK|" ++
      "INTERROBANG|OVERLINE"),
    (0x20A0,
      "EURO-CURRENCY SIGN|COLON SIGN|CRUZEIRO SIGN|FRENCH FRANC SIGN|LIRA SIGN|MILL SIGN|NAIRA " ++
      "SIGN|PESETA SIGN|RUPEE SIGN|WON SIGN|NEW SHEQEL SIGN|DONG SIGN|EURO SIGN|KIP SIGN|TUGRIK " ++
      "SIGN|DRACHMA SIGN|GERMAN PENNY SIGN|PESO SIGN|GUARANI SIGN|AUSTRAL SIGN|HRYVNIA SIGN|CEDI " ++
      "SIGN|LIVRE TOURNOIS SIGN|SPESMILO SIGN|TENGE SIGN|INDIAN RUPEE SIGN|TURKISH LIRA SIGN|" ++
      "NORDIC MARK SIGN|MANAT SIGN|RUBLE SIGN|LARI SIGN|BITCOIN SIGN"),
    (0x2100,
      "ACCOUNT OF|ADDRESSED TO THE SUBJECT|DOUBLE-STRUCK CAPITAL C|DEGREE CELSIUS|CENTRE LINE " ++
      "SYMBOL|CARE OF|CADA UNA|EULER CONSTANT|SCRUPLE|DEGREE FAHRENHEIT|SCRIPT SMALL G|SCRIPT " ++
      "CAPITAL H|BLACK-LETTER CAPITAL H|DOUBLE-STRUCK CAPITAL H|PLANCK CONSTANT|PLANCK CONSTANT " ++
      "OVER TWO PI|SCRIPT CAPITAL I|BLACK-LETTER CAPITAL I|SCRIPT CAPITAL L|SCRIPT SMALL L|L B BAR " ++
      "SYMBOL|DOUBLE-STRUCK CAPITAL N|NUMERO SIGN|SOUND RECORDING COPYRIGHT|SCRIPT CAPITAL P|" ++
      "DOUBLE-STRUCK CAPITAL P|DOUBLE-STRUCK CAPITAL Q|SCRIPT CAPITAL R|BLACK-LETTER CAPITAL R|" ++
      "DOUBLE-STRUCK CAPITAL R|PRESCRIPTION TAKE|RESPONSE|SERVICE MARK|TELEPHONE SIGN|TRADE MARK " ++
      "SIGN|VERSICLE|DOUBLE-STRUCK CAPITAL Z|OUNCE SIGN|OHM SIGN|INVERTED OHM SIGN|BLACK-LETTER " ++
      "CAPITAL Z|TURNED GREEK SMALL LETTER IOTA|KELVIN SIGN|ANGSTROM SIGN"),
    (0x2153,
      "VULGAR FRACTION ONE THIRD|VULGAR FRACTION TWO THIRDS|VULGAR FRACTION ONE FIFTH|VULGAR " ++
      "FRACTION TWO FIFTHS|VULGAR FRACTION THREE FIFTHS|VULGAR FRACTION FOUR FIFTHS|VULGAR " ++
      "FRACTION ONE SIXTH|VULGAR FRACTION FIVE SIXTHS|VULGAR FRACTION ONE EIGHTH|VULGAR FRACTION " ++
      "THREE EIGHTHS|VULGAR FRACTION FIVE EIGHTHS|VULGAR FRACTION SEVEN EIGHTHS|FRACTION NUMERATOR " ++
      "ONE|ROMAN NUMERAL ONE|ROMAN NUMERAL TWO|ROMAN NUMERAL THREE|ROMAN NUMERAL FOUR|ROMAN " ++
      "NUMERAL FIVE|ROMAN NUMERAL SIX|ROMAN NUMERAL SEVEN|ROMAN NUMERAL EIGHT|ROMAN NUMERAL NINE|" ++
      "ROMAN NUMERAL TEN|ROMAN NUMERAL ELEVEN|ROMAN NUMERAL TWELVE|ROMAN NUMERAL FIFTY|ROMAN " ++
      "NUMERAL ONE HUNDRED|ROMAN NUMERAL FIVE HUNDRED|ROMAN NUMERAL ONE THOUSAND"),
    (0x2190,
      "LEFTWARDS ARROW|UPWARDS ARROW|RIGHTWARDS ARROW|DOWNWARDS ARROW|LEFT RIGHT ARROW|UP DOWN " ++
      "ARROW|NORTH WEST ARROW|NORTH EAST ARROW|SOUTH EAST ARROW|SOUTH WEST ARROW"),
    (0x21D0,
      "LEFTWARDS DOUBLE ARROW|UPWARDS DOUBLE ARROW|RIGHTWARDS DOUBLE ARROW|DOWNWARDS DOUBLE ARROW|" ++
      "LEFT RIGHT DOUBLE ARROW|UP DOWN DOUBLE ARROW"),
    (0x2200,
      "FOR ALL|COMPLEMENT|PARTIAL DIFFERENTIAL|THERE EXISTS|THERE DOES NOT EXIST|EMPTY SET|" ++
      "INCREMENT|NABLA|ELEMENT OF|NOT AN ELEMENT OF|SMALL ELEMENT OF|CONTAINS AS MEMBER|DOES NOT " ++
      "CONTAIN AS MEMBER|SMALL CONTAINS AS MEMBER|END OF PROOF|N-ARY PRODUCT|N-ARY COPRODUCT|N-ARY " ++
      "SUMMATION|MINUS SIGN|MINUS-OR-PLUS SIGN|DOT PLUS|DIVISION SLASH|SET MINUS|ASTERISK OPERATOR|" ++
      "RING OPERATOR|BULLET OPERATOR|SQUARE ROOT|CUBE ROOT|FOURTH ROOT|PROPORTIONAL TO|INFINITY|" ++
      "RIGHT ANGLE|ANGLE|MEASURED ANGLE|SPHERICAL ANGLE|DIVIDES|DOES NOT DIVIDE|PARALLEL TO|NOT " ++
      "PARALLEL TO|LOGICAL AND|LOGICAL OR|INTERSECTION|UNION|INTEGRAL"),
    (0x2248,
      "ALMOST EQUAL TO"),
    (0x2260,
      "NOT EQUAL TO|IDENTICAL TO|NOT IDENTICAL TO|STRICTLY EQUIVALENT TO|LESS-THAN OR EQUAL TO|" ++
      "GREATER-THAN OR EQUAL TO"),
    (0x2460,
      "CIRCLED DIGIT ONE|CIRCLED DIGIT TWO|CIRCLED DIGIT THREE|CIRCLED DIGIT FOUR|CIRCLED DIGIT " ++
      "FIVE|CIRCLED DIGIT SIX|CIRCLED DIGIT SEVEN|CIRCLED DIGIT EIGHT|CIRCLED DIGIT NINE|CIRCLED " ++
      "NUMBER TEN"),
    (0x2580,
      "UPPER HALF BLOCK|LOWER ONE EIGHTH BLOCK|LOWER ONE QUARTER BLOCK|LOWER THREE EIGHTHS BLOCK|" ++
      "LOWER HALF BLOCK|LOWER FIVE EIGHTHS BLOCK|LOWER THREE QUARTERS BLOCK|LOWER SEVEN EIGHTHS " ++
      "BLOCK|FULL BLOCK|LEFT SEVEN EIGHTHS BLOCK|LEFT THREE QUARTERS BLOCK|LEFT FIVE EIGHTHS BLOCK|" ++
      "LEFT HALF BLOCK|LEFT THREE EIGHTHS BLOCK|LEFT ONE QUARTER BLOCK|LEFT ONE EIGHTH BLOCK|RIGHT " ++
      "HALF BLOCK|LIGHT SHADE|MEDIUM SHADE|DARK SHADE"),
    (0x25A0,
      "BLACK SQUARE|WHITE SQUARE|WHITE SQUARE WITH ROUNDED CORNERS|WHITE SQUARE CONTAINING BLACK " ++
      "SMALL SQUARE|SQUARE WITH HORIZONTAL FILL|SQUARE WITH VERTICAL FILL|SQUARE WITH ORTHOGONAL " ++
      "CROSSHATCH FILL|SQUARE WITH UPPER LEFT TO LOWER RIGHT FILL|SQUARE WITH UPPER RIGHT TO LOWER " ++
      "LEFT FILL|SQUARE WITH DIAGONAL CROSSHATCH FILL|BLACK SMALL SQUARE|WHITE SMALL SQUARE|BLACK " ++
      "RECTANGLE|WHITE RECTANGLE|BLACK VERTICAL RECTANGLE|WHITE VERTICAL RECTANGLE|BLACK " ++
      "PARALLELOGRAM|WHITE PARALLELOGRAM|BLACK UP-POINTING TRIANGLE|WHITE UP-POINTING TRIANGLE|" ++
      "BLACK UP-POINTING SMALL TRIANGLE|WHITE UP-POINTING SMALL TRIANGLE|BLACK RIGHT-POINTING " ++
      "TRIANGLE|WHITE RIGHT-POINTING TRIANGLE|BLACK RIGHT-POINTING SMALL TRIANGLE|WHITE " ++
      "RIGHT-POINTING SMALL TRIANGLE|BLACK RIGHT-POINTING POINTER|WHITE RIGHT-POINTING POINTER|" ++
      "BLACK DOWN-POINTING TRIANGLE|WHITE DOWN-POINTING TRIANGLE|BLACK DOWN-POINTING SMALL " ++
      "TRIANGLE|WHITE DOWN-POINTING SMALL TRIANGLE|BLACK LEFT-POINTING TRIANGLE|WHITE " ++
      "LEFT-POINTING TRIANGLE|BLACK LEFT-POINTING SMALL TRIANGLE|WHITE LEFT-POINTING SMALL " ++
      "TRIANGLE|BLACK LEFT-POINTING POINTER|WHITE LEFT-POINTING POINTER|BLACK DIAMOND|WHITE " ++
      "DIAMOND|WHITE DIAMOND CONTAINING BLACK SMALL DIAMOND|FISHEYE|LOZENGE|WHITE CIRCLE|DOTTED " ++
      "CIRCLE|CIRCLE WITH VERTICAL FILL|BULLSEYE|BLACK CIRCLE"),
    (0x2600,
      "BLACK SUN WITH RAYS|CLOUD|UMBRELLA|SNOWMAN|COMET|BLACK STAR|WHITE STAR|LIGHTNING|" ++
      "THUNDERSTORM|SUN|ASCENDING NODE|DESCENDING NODE|CONJUNCTION|OPPOSITION|BLACK TELEPHONE|" ++
      "WHITE TELEPHONE|BALLOT BOX|BALLOT BOX WITH CHECK|BALLOT BOX WITH X|SALTIRE|UMBRELLA WITH " ++
      "RAIN DROPS|HOT BEVERAGE|WHITE SHOGI PIECE|BLACK SHOGI PIECE|SHAMROCK|REVERSED ROTATED " ++
      "FLORAL HEART BULLET|BLACK LEFT POINTING INDEX|BLACK RIGHT POINTING INDEX|WHITE LEFT " ++
      "POINTING INDEX|WHITE UP POINTING INDEX|WHITE RIGHT POINTING INDEX|WHITE DOWN POINTING INDEX|" ++
      "SKULL AND CROSSBONES|CAUTION SIGN|RADIOACTIVE SIGN|BIOHAZARD SIGN|CADUCEUS|ANKH|ORTHODOX " ++
      "CROSS|CHI RHO|CROSS OF LORRAINE|CROSS OF JERUSALEM|STAR AND CRESCENT|FARSI SYMBOL|ADI " ++
      "SHAKTI|HAMMER AND SICKLE|PEACE SYMBOL|YIN YANG|TRIGRAM FOR HEAVEN|TRIGRAM FOR LAKE|TRIGRAM " ++
      "FOR FIRE|TRIGRAM FOR THUNDER|TRIGRAM FOR WIND|TRIGRAM FOR WATER|TRIGRAM FOR MOUNTAIN|" ++
      "TRIGRAM FOR EARTH|WHEEL OF DHARMA|WHITE FROWNING FACE|WHITE SMILING FACE|BLACK SMILING FACE|" ++
      "WHITE SUN WITH RAYS|FIRST QUARTER MOON|LAST QUARTER MOON|MERCURY|FEMALE SIGN|EARTH|MALE " ++
      "SIGN|JUPITER|SATURN|URANUS|NEPTUNE|PLUTO|ARIES|TAURUS|GEMINI|CANCER|LEO|VIRGO|LIBRA|" ++
      "SCORPIUS|SAGITTARIUS|CAPRICORN|AQUARIUS|PISCES|WHITE CHESS KING|WHITE CHESS QUEEN|WHITE " ++
      "CHESS ROOK|WHITE CHESS BISHOP|WHITE CHESS KNIGHT|WHITE CHESS PAWN|BLACK CHESS KING|BLACK " ++
      "CHESS QUEEN|BLACK CHESS ROOK|BLACK CHESS BISHOP|BLACK CHESS KNIGHT|BLACK CHESS PAWN|BLACK " ++
      "SPADE SUIT|WHITE HEART SUIT|WHITE DIAMOND SUIT|BLACK CLUB SUIT|WHITE SPADE SUIT|BLACK HEART " ++
      "SUIT|BLACK DIAMOND SUIT|WHITE CLUB SUIT|HOT SPRINGS|QUARTER NOTE|EIGHTH NOTE|BEAMED EIGHTH " ++
      "NOTES|BEAMED SIXTEENTH NOTES|MUSIC FLAT SIGN|MUSIC NATURAL SIGN|MUSIC SHARP SIGN"),
    (0x2713,
      "CHECK MARK|HEAVY CHECK MARK|MULTIPLICATION X|HEAVY MULTIPLICATION X|BALLOT X|HEAVY BALLOT X"),
    (0x2764,
      "HEAVY BLACK HEART"),
    (0x3041,
      "HIRAGANA LETTER SMALL A|HIRAGANA LETTER A|HIRAGANA LETTER SMALL I|HIRAGANA LETTER I|" ++
      "HIRAGANA LETTER SMALL U|HIRAGANA LETTER U|HIRAGANA LETTER SMALL E|HIRAGANA LETTER E|" ++
      "HIRAGANA LETTER SMALL O|HIRAGANA LETTER O|HIRAGANA LETTER KA|HIRAGANA LETTER GA|HIRAGANA " ++
      "LETTER KI|HIRAGANA LETTER GI|HIRAGANA LETTER KU|HIRAGANA LETTER GU"),
    (0xFEFF,
      "ZERO WIDTH NO-BREAK SPACE"),
    (0xFFFD,
      "REPLACEMENT CHARACTER"),
    (0x1F40D,
      "SNAKE"),
    (0x1F44B,
      "WAVING HAND SIGN|OK HAND SIGN|THUMBS UP SIGN|THUMBS DOWN SIGN|CLAPPING HANDS SIGN"),
    (0x1F600,
      "GRINNING FACE|GRINNING FACE WITH SMILING EYES|FACE WITH TEARS OF JOY|SMILING FACE WITH OPEN " ++
      "MOUTH|SMILING FACE WITH OPEN MOUTH AND SMILING EYES|SMILING FACE WITH OPEN MOUTH AND COLD " ++
      "SWEAT|SMILING FACE WITH OPEN MOUTH AND TIGHTLY-CLOSED EYES|SMILING FACE WITH HALO|SMILING " ++
      "FACE WITH HORNS|WINKING FACE|SMILING FACE WITH SMILING EYES|FACE SAVOURING DELICIOUS FOOD|" ++
      "RELIEVED FACE|SMILING FACE WITH HEART-SHAPED EYES|SMILING FACE WITH SUNGLASSES|SMIRKING " ++
      "FACE|NEUTRAL FACE|EXPRESSIONLESS FACE|UNAMUSED FACE|FACE WITH COLD SWEAT|PENSIVE FACE|" ++
      "CONFUSED FACE|CONFOUNDED FACE|KISSING FACE|FACE THROWING A KISS|KISSING FACE WITH SMILING " ++
      "EYES|KISSING FACE WITH CLOSED EYES|FACE WITH STUCK-OUT TONGUE|FACE WITH STUCK-OUT TONGUE " ++
      "AND WINKING EYE|FACE WITH STUCK-OUT TONGUE AND TIGHTLY-CLOSED EYES|DISAPPOINTED FACE|" ++
      "WORRIED FACE|ANGRY FACE|POUTING FACE|CRYING FACE|PERSEVERING FACE|FACE WITH LOOK OF TRIUMPH|" ++
      "DISAPPOINTED BUT RELIEVED FACE|FROWNING FACE WITH OPEN MOUTH|ANGUISHED FACE|FEARFUL FACE|" ++
      "WEARY FACE|SLEEPY FACE|TIRED FACE|GRIMACING FACE|LOUDLY CRYING FACE|FACE WITH OPEN MOUTH|" ++
      "HUSHED FACE|FACE WITH OPEN MOUTH AND COLD SWEAT|FACE SCREAMING IN FEAR|ASTONISHED FACE|" ++
      "FLUSHED FACE|SLEEPING FACE|DIZZY FACE|FACE WITHOUT MOUTH|FACE WITH MEDICAL MASK|GRINNING " ++
      "CAT FACE WITH SMILING EYES|CAT FACE WITH TEARS OF JOY|SMILING CAT FACE WITH OPEN MOUTH|" ++
      "SMILING CAT FACE WITH HEART-SHAPED EYES|CAT FACE WITH WRY SMILE|KISSING CAT FACE WITH " ++
      "CLOSED EYES|POUTING CAT FACE|CRYING CAT FACE|WEARY CAT FACE|SLIGHTLY FROWNING FACE|SLIGHTLY " ++
      "SMILING FACE|UPSIDE-DOWN FACE|FACE WITH ROLLING EYES|FACE WITH NO GOOD GESTURE|FACE WITH OK " ++
      "GESTURE|PERSON BOWING DEEPLY|SEE-NO-EVIL MONKEY|HEAR-NO-EVIL MONKEY|SPEAK-NO-EVIL MONKEY|" ++
      "HAPPY PERSON RAISING ONE HAND|PERSON RAISING BOTH HANDS IN CELEBRATION|PERSON FROWNING|" ++
      "PERSON WITH POUTING FACE|PERSON WITH FOLDED HANDS"),
    (0x1F680,
      "ROCKET|HELICOPTER|STEAM LOCOMOTIVE|RAILWAY CAR|HIGH-SPEED TRAIN|HIGH-SPEED TRAIN WITH " ++
      "BULLET NOSE|TRAIN|METRO|LIGHT RAIL|STATION|TRAM|TRAM CAR|BUS")]

/-- Names of characters beside their own, most of them of characters that have none. -/
def otherNames : List (String × Nat) :=
  [("NULL", 0x0), ("NUL", 0x0), ("START OF HEADING", 0x1), ("SOH", 0x1), ("START OF TEXT", 0x2),
    ("STX", 0x2), ("END OF TEXT", 0x3), ("ETX", 0x3), ("END OF TRANSMISSION", 0x4), ("EOT", 0x4),
    ("ENQUIRY", 0x5), ("ENQ", 0x5), ("ACKNOWLEDGE", 0x6), ("ACK", 0x6), ("ALERT", 0x7),
    ("BEL", 0x7), ("BACKSPACE", 0x8), ("BS", 0x8), ("CHARACTER TABULATION", 0x9),
    ("HORIZONTAL TABULATION", 0x9), ("HT", 0x9), ("TAB", 0x9), ("LINE FEED", 0xA),
    ("NEW LINE", 0xA), ("END OF LINE", 0xA), ("LF", 0xA), ("NL", 0xA), ("EOL", 0xA),
    ("LINE TABULATION", 0xB), ("VERTICAL TABULATION", 0xB), ("VT", 0xB), ("FORM FEED", 0xC),
    ("FF", 0xC), ("CARRIAGE RETURN", 0xD), ("CR", 0xD), ("SHIFT OUT", 0xE), ("SO", 0xE),
    ("SHIFT IN", 0xF), ("SI", 0xF), ("DATA LINK ESCAPE", 0x10), ("DLE", 0x10), ("CANCEL", 0x18),
    ("CAN", 0x18), ("SUBSTITUTE", 0x1A), ("SUB", 0x1A), ("ESCAPE", 0x1B), ("ESC", 0x1B),
    ("FILE SEPARATOR", 0x1C), ("FS", 0x1C), ("GROUP SEPARATOR", 0x1D), ("GS", 0x1D),
    ("RECORD SEPARATOR", 0x1E), ("RS", 0x1E), ("UNIT SEPARATOR", 0x1F), ("US", 0x1F),
    ("SP", 0x20), ("DELETE", 0x7F), ("DEL", 0x7F), ("NEXT LINE", 0x85), ("NEL", 0x85),
    ("NBSP", 0xA0), ("SHY", 0xAD), ("ZWSP", 0x200B), ("ZWNJ", 0x200C), ("ZWJ", 0x200D),
    ("LRM", 0x200E), ("RLM", 0x200F), ("NNBSP", 0x202F), ("WJ", 0x2060), ("BOM", 0xFEFF),
    ("ZWNBSP", 0xFEFF), ("BYTE ORDER MARK", 0xFEFF)]

/-- The runs of signs that are named by their numbers. -/
def numberedRuns : List (Nat × Nat) := [(0x3400, 0x4DBF), (0x4E00, 0x9FFC)]

/-- What stands in front of the number in the name of such a sign. -/
def numberedName : String := "CJK UNIFIED IDEOGRAPH-"

/-- The name of a character, if it is known. -/
def name? (c : Char) : Option String :=
  if Characters.inRuns numberedRuns c.toNat then
    some (numberedName ++ Characters.upper (String.ofList (Characters.hexDigits 4 c.toNat)))
  else
    (blocks.findSome? fun (first, names) =>
      if c.toNat < first then none else (names.splitOn "|")[c.toNat - first]?).filter (· ≠ "")

/-- The character of a name, in any case. -/
def character? (name : String) : Option Char :=
  let name := name.map Characters.asciiUpper
  match name.dropPrefix? numberedName with
  | some digits =>
    let digits := digits.toString.toList
    let code := Reading.digitsValue 16 0 digits
    if digits.all (Reading.isDigitOf 16) && Characters.inRuns numberedRuns code then
      some (Char.ofNat code)
    else none
  | none =>
    if name.isEmpty then none
    else
      (blocks.findSome? fun (first, names) =>
        ((names.splitOn "|").findIdx? (· = name)).map fun i => Char.ofNat (first + i)) <|>
      (otherNames.lookup name).map Char.ofNat

end PageContracts.CharacterNames
