/-!
# Names of punctuation and letterlike symbols

Punctuation, currency signs, letterlike symbols, number forms and arrows.

Each table holds stretches of characters. A stretch starts with a line that gives its first code
point and the words that its names begin with; the lines after it give the rest of the names of
the characters from there on.

## Main definitions

* `punctuation` -- the table.
-/
namespace Highlighting.Unicode.Names

/-- Names of punctuation and letterlike symbols. -/
def punctuation : String :=
"U+2000
EN QUAD; EM QUAD; EN SPACE; EM SPACE; THREE-PER-EM SPACE; FOUR-PER-EM SPACE; SIX-PER-EM SPACE
FIGURE SPACE; PUNCTUATION SPACE; THIN SPACE; HAIR SPACE; ZERO WIDTH SPACE; ZERO WIDTH NON-JOINER
ZERO WIDTH JOINER; LEFT-TO-RIGHT MARK; RIGHT-TO-LEFT MARK; HYPHEN; NON-BREAKING HYPHEN
FIGURE DASH; EN DASH; EM DASH; HORIZONTAL BAR; DOUBLE VERTICAL LINE; DOUBLE LOW LINE
LEFT SINGLE QUOTATION MARK; RIGHT SINGLE QUOTATION MARK; SINGLE LOW-9 QUOTATION MARK
SINGLE HIGH-REVERSED-9 QUOTATION MARK; LEFT DOUBLE QUOTATION MARK; RIGHT DOUBLE QUOTATION MARK
DOUBLE LOW-9 QUOTATION MARK; DOUBLE HIGH-REVERSED-9 QUOTATION MARK; DAGGER; DOUBLE DAGGER
BULLET; TRIANGULAR BULLET; ONE DOT LEADER; TWO DOT LEADER; HORIZONTAL ELLIPSIS
HYPHENATION POINT; LINE SEPARATOR; PARAGRAPH SEPARATOR; LEFT-TO-RIGHT EMBEDDING
RIGHT-TO-LEFT EMBEDDING; POP DIRECTIONAL FORMATTING; LEFT-TO-RIGHT OVERRIDE
RIGHT-TO-LEFT OVERRIDE; NARROW NO-BREAK SPACE; PER MILLE SIGN; PER TEN THOUSAND SIGN; PRIME
DOUBLE PRIME; TRIPLE PRIME; REVERSED PRIME; REVERSED DOUBLE PRIME; REVERSED TRIPLE PRIME; CARET
SINGLE LEFT-POINTING ANGLE QUOTATION MARK; SINGLE RIGHT-POINTING ANGLE QUOTATION MARK
REFERENCE MARK; DOUBLE EXCLAMATION MARK; INTERROBANG; OVERLINE; UNDERTIE; CHARACTER TIE
CARET INSERTION POINT; ASTERISM; HYPHEN BULLET; FRACTION SLASH; LEFT SQUARE BRACKET WITH QUILL
RIGHT SQUARE BRACKET WITH QUILL; DOUBLE QUESTION MARK; QUESTION EXCLAMATION MARK
EXCLAMATION QUESTION MARK; TIRONIAN SIGN ET; REVERSED PILCROW SIGN; BLACK LEFTWARDS BULLET
BLACK RIGHTWARDS BULLET; LOW ASTERISK; REVERSED SEMICOLON; CLOSE UP
TWO ASTERISKS ALIGNED VERTICALLY; COMMERCIAL MINUS SIGN; SWUNG DASH; INVERTED UNDERTIE
FLOWER PUNCTUATION MARK; THREE DOT PUNCTUATION; QUADRUPLE PRIME; FOUR DOT PUNCTUATION
FIVE DOT PUNCTUATION; TWO DOT PUNCTUATION; FOUR DOT MARK; DOTTED CROSS; TRICOLON
VERTICAL FOUR DOTS; MEDIUM MATHEMATICAL SPACE; WORD JOINER; FUNCTION APPLICATION
INVISIBLE TIMES; INVISIBLE SEPARATOR; INVISIBLE PLUS
U+2066
LEFT-TO-RIGHT ISOLATE; RIGHT-TO-LEFT ISOLATE; FIRST STRONG ISOLATE; POP DIRECTIONAL ISOLATE
INHIBIT SYMMETRIC SWAPPING; ACTIVATE SYMMETRIC SWAPPING; INHIBIT ARABIC FORM SHAPING
ACTIVATE ARABIC FORM SHAPING; NATIONAL DIGIT SHAPES; NOMINAL DIGIT SHAPES; SUPERSCRIPT ZERO
SUPERSCRIPT LATIN SMALL LETTER I
U+2074 SUPERSCRIPT
FOUR; FIVE; SIX; SEVEN; EIGHT; NINE; PLUS SIGN; MINUS; EQUALS SIGN; LEFT PARENTHESIS
RIGHT PARENTHESIS; LATIN SMALL LETTER N
U+2080 SUBSCRIPT
ZERO; ONE; TWO; THREE; FOUR; FIVE; SIX; SEVEN; EIGHT; NINE; PLUS SIGN; MINUS; EQUALS SIGN
LEFT PARENTHESIS; RIGHT PARENTHESIS
U+2090 LATIN SUBSCRIPT SMALL LETTER
A; E; O; X; SCHWA; H; K; L; M; N; P; S; T
U+20A0
EURO-CURRENCY SIGN; COLON SIGN; CRUZEIRO SIGN; FRENCH FRANC SIGN; LIRA SIGN; MILL SIGN
NAIRA SIGN; PESETA SIGN; RUPEE SIGN; WON SIGN; NEW SHEQEL SIGN; DONG SIGN; EURO SIGN; KIP SIGN
TUGRIK SIGN; DRACHMA SIGN; GERMAN PENNY SIGN; PESO SIGN; GUARANI SIGN; AUSTRAL SIGN
HRYVNIA SIGN; CEDI SIGN; LIVRE TOURNOIS SIGN; SPESMILO SIGN; TENGE SIGN; INDIAN RUPEE SIGN
TURKISH LIRA SIGN; NORDIC MARK SIGN; MANAT SIGN; RUBLE SIGN; LARI SIGN; BITCOIN SIGN; SOM SIGN
U+20D0 COMBINING
LEFT HARPOON ABOVE; RIGHT HARPOON ABOVE; LONG VERTICAL LINE OVERLAY; SHORT VERTICAL LINE OVERLAY
ANTICLOCKWISE ARROW ABOVE; CLOCKWISE ARROW ABOVE; LEFT ARROW ABOVE; RIGHT ARROW ABOVE
RING OVERLAY; CLOCKWISE RING OVERLAY; ANTICLOCKWISE RING OVERLAY; THREE DOTS ABOVE
FOUR DOTS ABOVE; ENCLOSING CIRCLE; ENCLOSING SQUARE; ENCLOSING DIAMOND
ENCLOSING CIRCLE BACKSLASH; LEFT RIGHT ARROW ABOVE; ENCLOSING SCREEN; ENCLOSING KEYCAP
ENCLOSING UPWARD POINTING TRIANGLE; REVERSE SOLIDUS OVERLAY; DOUBLE VERTICAL STROKE OVERLAY
ANNUITY SYMBOL; TRIPLE UNDERDOT; WIDE BRIDGE ABOVE; LEFTWARDS ARROW OVERLAY
LONG DOUBLE SOLIDUS OVERLAY; RIGHTWARDS HARPOON WITH BARB DOWNWARDS
LEFTWARDS HARPOON WITH BARB DOWNWARDS; LEFT ARROW BELOW; RIGHT ARROW BELOW; ASTERISK ABOVE
U+2100
ACCOUNT OF; ADDRESSED TO THE SUBJECT; DOUBLE-STRUCK CAPITAL C; DEGREE CELSIUS
CENTRE LINE SYMBOL; CARE OF; CADA UNA; EULER CONSTANT; SCRUPLE; DEGREE FAHRENHEIT
SCRIPT SMALL G; SCRIPT CAPITAL H; BLACK-LETTER CAPITAL H; DOUBLE-STRUCK CAPITAL H
PLANCK CONSTANT; PLANCK CONSTANT OVER TWO PI; SCRIPT CAPITAL I; BLACK-LETTER CAPITAL I
SCRIPT CAPITAL L; SCRIPT SMALL L; L B BAR SYMBOL; DOUBLE-STRUCK CAPITAL N; NUMERO SIGN
SOUND RECORDING COPYRIGHT; SCRIPT CAPITAL P; DOUBLE-STRUCK CAPITAL P; DOUBLE-STRUCK CAPITAL Q
SCRIPT CAPITAL R; BLACK-LETTER CAPITAL R; DOUBLE-STRUCK CAPITAL R; PRESCRIPTION TAKE; RESPONSE
SERVICE MARK; TELEPHONE SIGN; TRADE MARK SIGN; VERSICLE; DOUBLE-STRUCK CAPITAL Z; OUNCE SIGN
OHM SIGN; INVERTED OHM SIGN; BLACK-LETTER CAPITAL Z; TURNED GREEK SMALL LETTER IOTA; KELVIN SIGN
ANGSTROM SIGN; SCRIPT CAPITAL B; BLACK-LETTER CAPITAL C; ESTIMATED SYMBOL; SCRIPT SMALL E
SCRIPT CAPITAL E; SCRIPT CAPITAL F; TURNED CAPITAL F; SCRIPT CAPITAL M; SCRIPT SMALL O
ALEF SYMBOL; BET SYMBOL; GIMEL SYMBOL; DALET SYMBOL; INFORMATION SOURCE; ROTATED CAPITAL Q
FACSIMILE SIGN
U+213C DOUBLE-STRUCK
SMALL PI; SMALL GAMMA; CAPITAL GAMMA; CAPITAL PI; N-ARY SUMMATION
U+2141 TURNED SANS-SERIF CAPITAL
G; L
U+2143
REVERSED SANS-SERIF CAPITAL L; TURNED SANS-SERIF CAPITAL Y
U+2145 DOUBLE-STRUCK ITALIC
CAPITAL D; SMALL D; SMALL E; SMALL I; SMALL J
U+214A
PROPERTY LINE; TURNED AMPERSAND; PER SIGN; AKTIESELSKAB; TURNED SMALL F
SYMBOL FOR SAMARITAN SOURCE
U+2150 VULGAR FRACTION
ONE SEVENTH; ONE NINTH; ONE TENTH; ONE THIRD; TWO THIRDS; ONE FIFTH; TWO FIFTHS; THREE FIFTHS
FOUR FIFTHS; ONE SIXTH; FIVE SIXTHS; ONE EIGHTH; THREE EIGHTHS; FIVE EIGHTHS; SEVEN EIGHTHS
U+215F
FRACTION NUMERATOR ONE
U+2160 ROMAN NUMERAL
ONE; TWO; THREE; FOUR; FIVE; SIX; SEVEN; EIGHT; NINE; TEN; ELEVEN; TWELVE; FIFTY; ONE HUNDRED
FIVE HUNDRED; ONE THOUSAND
U+2170 SMALL ROMAN NUMERAL
ONE; TWO; THREE; FOUR; FIVE; SIX; SEVEN; EIGHT; NINE; TEN; ELEVEN; TWELVE; FIFTY; ONE HUNDRED
FIVE HUNDRED; ONE THOUSAND
U+2180 ROMAN NUMERAL
ONE THOUSAND C D; FIVE THOUSAND; TEN THOUSAND; REVERSED ONE HUNDRED
U+2184
LATIN SMALL LETTER REVERSED C; ROMAN NUMERAL SIX LATE FORM; ROMAN NUMERAL FIFTY EARLY FORM
ROMAN NUMERAL FIFTY THOUSAND; ROMAN NUMERAL ONE HUNDRED THOUSAND; VULGAR FRACTION ZERO THIRDS
TURNED DIGIT TWO; TURNED DIGIT THREE
U+2190
LEFTWARDS ARROW; UPWARDS ARROW; RIGHTWARDS ARROW; DOWNWARDS ARROW; LEFT RIGHT ARROW
UP DOWN ARROW; NORTH WEST ARROW; NORTH EAST ARROW; SOUTH EAST ARROW; SOUTH WEST ARROW
LEFTWARDS ARROW WITH STROKE; RIGHTWARDS ARROW WITH STROKE; LEFTWARDS WAVE ARROW
RIGHTWARDS WAVE ARROW; LEFTWARDS TWO HEADED ARROW; UPWARDS TWO HEADED ARROW
RIGHTWARDS TWO HEADED ARROW; DOWNWARDS TWO HEADED ARROW; LEFTWARDS ARROW WITH TAIL
RIGHTWARDS ARROW WITH TAIL; LEFTWARDS ARROW FROM BAR; UPWARDS ARROW FROM BAR
RIGHTWARDS ARROW FROM BAR; DOWNWARDS ARROW FROM BAR; UP DOWN ARROW WITH BASE
LEFTWARDS ARROW WITH HOOK; RIGHTWARDS ARROW WITH HOOK; LEFTWARDS ARROW WITH LOOP
RIGHTWARDS ARROW WITH LOOP; LEFT RIGHT WAVE ARROW; LEFT RIGHT ARROW WITH STROKE
DOWNWARDS ZIGZAG ARROW; UPWARDS ARROW WITH TIP LEFTWARDS; UPWARDS ARROW WITH TIP RIGHTWARDS
DOWNWARDS ARROW WITH TIP LEFTWARDS; DOWNWARDS ARROW WITH TIP RIGHTWARDS
RIGHTWARDS ARROW WITH CORNER DOWNWARDS; DOWNWARDS ARROW WITH CORNER LEFTWARDS
ANTICLOCKWISE TOP SEMICIRCLE ARROW; CLOCKWISE TOP SEMICIRCLE ARROW; NORTH WEST ARROW TO LONG BAR
LEFTWARDS ARROW TO BAR OVER RIGHTWARDS ARROW TO BAR; ANTICLOCKWISE OPEN CIRCLE ARROW
CLOCKWISE OPEN CIRCLE ARROW; LEFTWARDS HARPOON WITH BARB UPWARDS
LEFTWARDS HARPOON WITH BARB DOWNWARDS; UPWARDS HARPOON WITH BARB RIGHTWARDS
UPWARDS HARPOON WITH BARB LEFTWARDS; RIGHTWARDS HARPOON WITH BARB UPWARDS
RIGHTWARDS HARPOON WITH BARB DOWNWARDS; DOWNWARDS HARPOON WITH BARB RIGHTWARDS
DOWNWARDS HARPOON WITH BARB LEFTWARDS; RIGHTWARDS ARROW OVER LEFTWARDS ARROW
UPWARDS ARROW LEFTWARDS OF DOWNWARDS ARROW; LEFTWARDS ARROW OVER RIGHTWARDS ARROW
LEFTWARDS PAIRED ARROWS; UPWARDS PAIRED ARROWS; RIGHTWARDS PAIRED ARROWS
DOWNWARDS PAIRED ARROWS; LEFTWARDS HARPOON OVER RIGHTWARDS HARPOON
RIGHTWARDS HARPOON OVER LEFTWARDS HARPOON; LEFTWARDS DOUBLE ARROW WITH STROKE
LEFT RIGHT DOUBLE ARROW WITH STROKE; RIGHTWARDS DOUBLE ARROW WITH STROKE; LEFTWARDS DOUBLE ARROW
UPWARDS DOUBLE ARROW; RIGHTWARDS DOUBLE ARROW; DOWNWARDS DOUBLE ARROW; LEFT RIGHT DOUBLE ARROW
UP DOWN DOUBLE ARROW; NORTH WEST DOUBLE ARROW; NORTH EAST DOUBLE ARROW; SOUTH EAST DOUBLE ARROW
SOUTH WEST DOUBLE ARROW; LEFTWARDS TRIPLE ARROW; RIGHTWARDS TRIPLE ARROW
LEFTWARDS SQUIGGLE ARROW; RIGHTWARDS SQUIGGLE ARROW; UPWARDS ARROW WITH DOUBLE STROKE
DOWNWARDS ARROW WITH DOUBLE STROKE; LEFTWARDS DASHED ARROW; UPWARDS DASHED ARROW
RIGHTWARDS DASHED ARROW; DOWNWARDS DASHED ARROW; LEFTWARDS ARROW TO BAR; RIGHTWARDS ARROW TO BAR
LEFTWARDS WHITE ARROW; UPWARDS WHITE ARROW; RIGHTWARDS WHITE ARROW; DOWNWARDS WHITE ARROW
U+21EA UPWARDS WHITE
ARROW FROM BAR; ARROW ON PEDESTAL; ARROW ON PEDESTAL WITH HORIZONTAL BAR
ARROW ON PEDESTAL WITH VERTICAL BAR; DOUBLE ARROW; DOUBLE ARROW ON PEDESTAL
U+21F0
RIGHTWARDS WHITE ARROW FROM WALL; NORTH WEST ARROW TO CORNER; SOUTH EAST ARROW TO CORNER
UP DOWN WHITE ARROW; RIGHT ARROW WITH SMALL CIRCLE; DOWNWARDS ARROW LEFTWARDS OF UPWARDS ARROW
THREE RIGHTWARDS ARROWS; LEFTWARDS ARROW WITH VERTICAL STROKE
RIGHTWARDS ARROW WITH VERTICAL STROKE; LEFT RIGHT ARROW WITH VERTICAL STROKE
LEFTWARDS ARROW WITH DOUBLE VERTICAL STROKE; RIGHTWARDS ARROW WITH DOUBLE VERTICAL STROKE
LEFT RIGHT ARROW WITH DOUBLE VERTICAL STROKE; LEFTWARDS OPEN-HEADED ARROW
RIGHTWARDS OPEN-HEADED ARROW; LEFT RIGHT OPEN-HEADED ARROW"

end Highlighting.Unicode.Names
