/-!
# Names of mathematical and technical symbols

Mathematical operators, technical symbols, enclosed characters and box drawing.

Each table holds stretches of characters. A stretch starts with a line that gives its first code
point and the words that its names begin with; the lines after it give the rest of the names of
the characters from there on.

## Main definitions

* `operators` -- the table.
-/
namespace Highlighting.Unicode.Names

/-- Names of mathematical and technical symbols. -/
def operators : String :=
"U+2200
FOR ALL; COMPLEMENT; PARTIAL DIFFERENTIAL; THERE EXISTS; THERE DOES NOT EXIST; EMPTY SET
INCREMENT; NABLA; ELEMENT OF; NOT AN ELEMENT OF; SMALL ELEMENT OF; CONTAINS AS MEMBER
DOES NOT CONTAIN AS MEMBER; SMALL CONTAINS AS MEMBER; END OF PROOF; N-ARY PRODUCT
N-ARY COPRODUCT; N-ARY SUMMATION; MINUS SIGN; MINUS-OR-PLUS SIGN; DOT PLUS; DIVISION SLASH
SET MINUS; ASTERISK OPERATOR; RING OPERATOR; BULLET OPERATOR; SQUARE ROOT; CUBE ROOT
FOURTH ROOT; PROPORTIONAL TO; INFINITY; RIGHT ANGLE; ANGLE; MEASURED ANGLE; SPHERICAL ANGLE
DIVIDES; DOES NOT DIVIDE; PARALLEL TO; NOT PARALLEL TO; LOGICAL AND; LOGICAL OR; INTERSECTION
UNION; INTEGRAL; DOUBLE INTEGRAL; TRIPLE INTEGRAL; CONTOUR INTEGRAL; SURFACE INTEGRAL
VOLUME INTEGRAL; CLOCKWISE INTEGRAL; CLOCKWISE CONTOUR INTEGRAL; ANTICLOCKWISE CONTOUR INTEGRAL
THEREFORE; BECAUSE; RATIO; PROPORTION; DOT MINUS; EXCESS; GEOMETRIC PROPORTION; HOMOTHETIC
TILDE OPERATOR; REVERSED TILDE; INVERTED LAZY S; SINE WAVE; WREATH PRODUCT; NOT TILDE
MINUS TILDE; ASYMPTOTICALLY EQUAL TO; NOT ASYMPTOTICALLY EQUAL TO; APPROXIMATELY EQUAL TO
APPROXIMATELY BUT NOT ACTUALLY EQUAL TO; NEITHER APPROXIMATELY NOR ACTUALLY EQUAL TO
ALMOST EQUAL TO; NOT ALMOST EQUAL TO; ALMOST EQUAL OR EQUAL TO; TRIPLE TILDE; ALL EQUAL TO
EQUIVALENT TO; GEOMETRICALLY EQUIVALENT TO; DIFFERENCE BETWEEN; APPROACHES THE LIMIT
GEOMETRICALLY EQUAL TO; APPROXIMATELY EQUAL TO OR THE IMAGE OF
IMAGE OF OR APPROXIMATELY EQUAL TO; COLON EQUALS; EQUALS COLON; RING IN EQUAL TO; RING EQUAL TO
CORRESPONDS TO; ESTIMATES; EQUIANGULAR TO; STAR EQUALS; DELTA EQUAL TO; EQUAL TO BY DEFINITION
MEASURED BY; QUESTIONED EQUAL TO; NOT EQUAL TO; IDENTICAL TO; NOT IDENTICAL TO
STRICTLY EQUIVALENT TO; LESS-THAN OR EQUAL TO; GREATER-THAN OR EQUAL TO; LESS-THAN OVER EQUAL TO
GREATER-THAN OVER EQUAL TO; LESS-THAN BUT NOT EQUAL TO; GREATER-THAN BUT NOT EQUAL TO
MUCH LESS-THAN; MUCH GREATER-THAN; BETWEEN; NOT EQUIVALENT TO; NOT LESS-THAN; NOT GREATER-THAN
NEITHER LESS-THAN NOR EQUAL TO; NEITHER GREATER-THAN NOR EQUAL TO; LESS-THAN OR EQUIVALENT TO
GREATER-THAN OR EQUIVALENT TO; NEITHER LESS-THAN NOR EQUIVALENT TO
NEITHER GREATER-THAN NOR EQUIVALENT TO; LESS-THAN OR GREATER-THAN; GREATER-THAN OR LESS-THAN
NEITHER LESS-THAN NOR GREATER-THAN; NEITHER GREATER-THAN NOR LESS-THAN; PRECEDES; SUCCEEDS
PRECEDES OR EQUAL TO; SUCCEEDS OR EQUAL TO; PRECEDES OR EQUIVALENT TO; SUCCEEDS OR EQUIVALENT TO
DOES NOT PRECEDE; DOES NOT SUCCEED; SUBSET OF; SUPERSET OF; NOT A SUBSET OF; NOT A SUPERSET OF
SUBSET OF OR EQUAL TO; SUPERSET OF OR EQUAL TO; NEITHER A SUBSET OF NOR EQUAL TO
NEITHER A SUPERSET OF NOR EQUAL TO; SUBSET OF WITH NOT EQUAL TO; SUPERSET OF WITH NOT EQUAL TO
MULTISET; MULTISET MULTIPLICATION; MULTISET UNION
U+228F SQUARE
IMAGE OF; ORIGINAL OF; IMAGE OF OR EQUAL TO; ORIGINAL OF OR EQUAL TO; CAP; CUP
U+2295 CIRCLED
PLUS; MINUS; TIMES; DIVISION SLASH; DOT OPERATOR; RING OPERATOR; ASTERISK OPERATOR; EQUALS; DASH
U+229E SQUARED
PLUS; MINUS; TIMES; DOT OPERATOR
U+22A2
RIGHT TACK; LEFT TACK; DOWN TACK; UP TACK; ASSERTION; MODELS; TRUE; FORCES
TRIPLE VERTICAL BAR RIGHT TURNSTILE; DOUBLE VERTICAL BAR DOUBLE RIGHT TURNSTILE; DOES NOT PROVE
NOT TRUE; DOES NOT FORCE; NEGATED DOUBLE VERTICAL BAR DOUBLE RIGHT TURNSTILE
PRECEDES UNDER RELATION; SUCCEEDS UNDER RELATION; NORMAL SUBGROUP OF
CONTAINS AS NORMAL SUBGROUP; NORMAL SUBGROUP OF OR EQUAL TO
CONTAINS AS NORMAL SUBGROUP OR EQUAL TO; ORIGINAL OF; IMAGE OF; MULTIMAP
HERMITIAN CONJUGATE MATRIX; INTERCALATE; XOR; NAND; NOR; RIGHT ANGLE WITH ARC; RIGHT TRIANGLE
N-ARY LOGICAL AND; N-ARY LOGICAL OR; N-ARY INTERSECTION; N-ARY UNION; DIAMOND OPERATOR
DOT OPERATOR; STAR OPERATOR; DIVISION TIMES; BOWTIE; LEFT NORMAL FACTOR SEMIDIRECT PRODUCT
RIGHT NORMAL FACTOR SEMIDIRECT PRODUCT; LEFT SEMIDIRECT PRODUCT; RIGHT SEMIDIRECT PRODUCT
REVERSED TILDE EQUALS; CURLY LOGICAL OR; CURLY LOGICAL AND; DOUBLE SUBSET; DOUBLE SUPERSET
DOUBLE INTERSECTION; DOUBLE UNION; PITCHFORK; EQUAL AND PARALLEL TO; LESS-THAN WITH DOT
GREATER-THAN WITH DOT; VERY MUCH LESS-THAN; VERY MUCH GREATER-THAN
LESS-THAN EQUAL TO OR GREATER-THAN; GREATER-THAN EQUAL TO OR LESS-THAN; EQUAL TO OR LESS-THAN
EQUAL TO OR GREATER-THAN; EQUAL TO OR PRECEDES; EQUAL TO OR SUCCEEDS; DOES NOT PRECEDE OR EQUAL
DOES NOT SUCCEED OR EQUAL; NOT SQUARE IMAGE OF OR EQUAL TO; NOT SQUARE ORIGINAL OF OR EQUAL TO
SQUARE IMAGE OF OR NOT EQUAL TO; SQUARE ORIGINAL OF OR NOT EQUAL TO
LESS-THAN BUT NOT EQUIVALENT TO; GREATER-THAN BUT NOT EQUIVALENT TO
PRECEDES BUT NOT EQUIVALENT TO; SUCCEEDS BUT NOT EQUIVALENT TO; NOT NORMAL SUBGROUP OF
DOES NOT CONTAIN AS NORMAL SUBGROUP; NOT NORMAL SUBGROUP OF OR EQUAL TO
DOES NOT CONTAIN AS NORMAL SUBGROUP OR EQUAL; VERTICAL ELLIPSIS; MIDLINE HORIZONTAL ELLIPSIS
UP RIGHT DIAGONAL ELLIPSIS; DOWN RIGHT DIAGONAL ELLIPSIS; ELEMENT OF WITH LONG HORIZONTAL STROKE
ELEMENT OF WITH VERTICAL BAR AT END OF HORIZONTAL STROKE
SMALL ELEMENT OF WITH VERTICAL BAR AT END OF HORIZONTAL STROKE; ELEMENT OF WITH DOT ABOVE
ELEMENT OF WITH OVERBAR; SMALL ELEMENT OF WITH OVERBAR; ELEMENT OF WITH UNDERBAR
ELEMENT OF WITH TWO HORIZONTAL STROKES; CONTAINS WITH LONG HORIZONTAL STROKE
CONTAINS WITH VERTICAL BAR AT END OF HORIZONTAL STROKE
SMALL CONTAINS WITH VERTICAL BAR AT END OF HORIZONTAL STROKE; CONTAINS WITH OVERBAR
SMALL CONTAINS WITH OVERBAR; Z NOTATION BAG MEMBERSHIP; DIAMETER SIGN; ELECTRIC ARROW; HOUSE
UP ARROWHEAD; DOWN ARROWHEAD; PROJECTIVE; PERSPECTIVE; WAVY LINE; LEFT CEILING; RIGHT CEILING
LEFT FLOOR; RIGHT FLOOR; BOTTOM RIGHT CROP; BOTTOM LEFT CROP; TOP RIGHT CROP; TOP LEFT CROP
REVERSED NOT SIGN; SQUARE LOZENGE; ARC; SEGMENT; SECTOR; TELEPHONE RECORDER; POSITION INDICATOR
VIEWDATA SQUARE; PLACE OF INTEREST SIGN; TURNED NOT SIGN; WATCH; HOURGLASS; TOP LEFT CORNER
TOP RIGHT CORNER; BOTTOM LEFT CORNER; BOTTOM RIGHT CORNER; TOP HALF INTEGRAL
BOTTOM HALF INTEGRAL; FROWN; SMILE; UP ARROWHEAD BETWEEN TWO HORIZONTAL BARS; OPTION KEY
ERASE TO THE RIGHT; X IN A RECTANGLE BOX; KEYBOARD; LEFT-POINTING ANGLE BRACKET
RIGHT-POINTING ANGLE BRACKET; ERASE TO THE LEFT; BENZENE RING; CYLINDRICITY; ALL AROUND-PROFILE
SYMMETRY; TOTAL RUNOUT; DIMENSION ORIGIN; CONICAL TAPER; SLOPE; COUNTERBORE; COUNTERSINK
U+2336 APL FUNCTIONAL SYMBOL
I-BEAM; SQUISH QUAD; QUAD EQUAL; QUAD DIVIDE; QUAD DIAMOND; QUAD JOT; QUAD CIRCLE; CIRCLE STILE
CIRCLE JOT; SLASH BAR; BACKSLASH BAR; QUAD SLASH; QUAD BACKSLASH; QUAD LESS-THAN
QUAD GREATER-THAN; LEFTWARDS VANE; RIGHTWARDS VANE; QUAD LEFTWARDS ARROW; QUAD RIGHTWARDS ARROW
CIRCLE BACKSLASH; DOWN TACK UNDERBAR; DELTA STILE; QUAD DOWN CARET; QUAD DELTA; DOWN TACK JOT
UPWARDS VANE; QUAD UPWARDS ARROW; UP TACK OVERBAR; DEL STILE; QUAD UP CARET; QUAD DEL
UP TACK JOT; DOWNWARDS VANE; QUAD DOWNWARDS ARROW; QUOTE UNDERBAR; DELTA UNDERBAR
DIAMOND UNDERBAR; JOT UNDERBAR; CIRCLE UNDERBAR; UP SHOE JOT; QUOTE QUAD; CIRCLE STAR
QUAD COLON; UP TACK DIAERESIS; DEL DIAERESIS; STAR DIAERESIS; JOT DIAERESIS; CIRCLE DIAERESIS
DOWN SHOE STILE; LEFT SHOE STILE; TILDE DIAERESIS; GREATER-THAN DIAERESIS; COMMA BAR; DEL TILDE
ZILDE; STILE TILDE; SEMICOLON UNDERBAR; QUAD NOT EQUAL; QUAD QUESTION; DOWN CARET TILDE
UP CARET TILDE; IOTA; RHO; OMEGA; ALPHA UNDERBAR; EPSILON UNDERBAR; IOTA UNDERBAR
OMEGA UNDERBAR; ALPHA
U+237B
NOT CHECK MARK; RIGHT ANGLE WITH DOWNWARDS ZIGZAG ARROW; SHOULDERED OPEN BOX; BELL SYMBOL
VERTICAL LINE WITH MIDDLE DOT; INSERTION SYMBOL; CONTINUOUS UNDERLINE SYMBOL
DISCONTINUOUS UNDERLINE SYMBOL; EMPHASIS SYMBOL; COMPOSITION SYMBOL
WHITE SQUARE WITH CENTRE VERTICAL LINE; ENTER SYMBOL; ALTERNATIVE KEY SYMBOL; HELM SYMBOL
CIRCLED HORIZONTAL BAR WITH NOTCH; CIRCLED TRIANGLE DOWN; BROKEN CIRCLE WITH NORTHWEST ARROW
UNDO SYMBOL; MONOSTABLE SYMBOL; HYSTERESIS SYMBOL; OPEN-CIRCUIT-OUTPUT H-TYPE SYMBOL
OPEN-CIRCUIT-OUTPUT L-TYPE SYMBOL; PASSIVE-PULL-DOWN-OUTPUT SYMBOL
PASSIVE-PULL-UP-OUTPUT SYMBOL; DIRECT CURRENT SYMBOL FORM TWO; SOFTWARE-FUNCTION SYMBOL
APL FUNCTIONAL SYMBOL QUAD; DECIMAL SEPARATOR KEY SYMBOL; PREVIOUS PAGE; NEXT PAGE
PRINT SCREEN SYMBOL; CLEAR SCREEN SYMBOL
U+239B LEFT PARENTHESIS
UPPER HOOK; EXTENSION; LOWER HOOK
U+239E RIGHT PARENTHESIS
UPPER HOOK; EXTENSION; LOWER HOOK
U+23A1 LEFT SQUARE BRACKET
UPPER CORNER; EXTENSION; LOWER CORNER
U+23A4 RIGHT SQUARE BRACKET
UPPER CORNER; EXTENSION; LOWER CORNER
U+23A7 LEFT CURLY BRACKET
UPPER HOOK; MIDDLE PIECE; LOWER HOOK
U+23AA
CURLY BRACKET EXTENSION; RIGHT CURLY BRACKET UPPER HOOK; RIGHT CURLY BRACKET MIDDLE PIECE
RIGHT CURLY BRACKET LOWER HOOK; INTEGRAL EXTENSION; HORIZONTAL LINE EXTENSION
UPPER LEFT OR LOWER RIGHT CURLY BRACKET SECTION; UPPER RIGHT OR LOWER LEFT CURLY BRACKET SECTION
SUMMATION TOP; SUMMATION BOTTOM; TOP SQUARE BRACKET; BOTTOM SQUARE BRACKET
BOTTOM SQUARE BRACKET OVER TOP SQUARE BRACKET; RADICAL SYMBOL BOTTOM; LEFT VERTICAL BOX LINE
RIGHT VERTICAL BOX LINE
U+23BA HORIZONTAL SCAN LINE-
1; 3; 7; 9
U+23BE DENTISTRY SYMBOL LIGHT
VERTICAL AND TOP RIGHT; VERTICAL AND BOTTOM RIGHT; VERTICAL WITH CIRCLE
DOWN AND HORIZONTAL WITH CIRCLE; UP AND HORIZONTAL WITH CIRCLE; VERTICAL WITH TRIANGLE
DOWN AND HORIZONTAL WITH TRIANGLE; UP AND HORIZONTAL WITH TRIANGLE; VERTICAL AND WAVE
DOWN AND HORIZONTAL WITH WAVE; UP AND HORIZONTAL WITH WAVE; DOWN AND HORIZONTAL
UP AND HORIZONTAL; VERTICAL AND TOP LEFT; VERTICAL AND BOTTOM LEFT
U+23CD
SQUARE FOOT; RETURN SYMBOL; EJECT SYMBOL; VERTICAL LINE EXTENSION
U+23D1 METRICAL
BREVE; LONG OVER SHORT; SHORT OVER LONG; LONG OVER TWO SHORTS; TWO SHORTS OVER LONG
TWO SHORTS JOINED; TRISEME; TETRASEME; PENTASEME
U+23DA
EARTH GROUND; FUSE; TOP PARENTHESIS; BOTTOM PARENTHESIS; TOP CURLY BRACKET; BOTTOM CURLY BRACKET
TOP TORTOISE SHELL BRACKET; BOTTOM TORTOISE SHELL BRACKET; WHITE TRAPEZIUM
BENZENE RING WITH CIRCLE; STRAIGHTNESS; FLATNESS; AC CURRENT; ELECTRICAL INTERSECTION
DECIMAL EXPONENT SYMBOL; BLACK RIGHT-POINTING DOUBLE TRIANGLE
BLACK LEFT-POINTING DOUBLE TRIANGLE; BLACK UP-POINTING DOUBLE TRIANGLE
BLACK DOWN-POINTING DOUBLE TRIANGLE; BLACK RIGHT-POINTING DOUBLE TRIANGLE WITH VERTICAL BAR
BLACK LEFT-POINTING DOUBLE TRIANGLE WITH VERTICAL BAR
BLACK RIGHT-POINTING TRIANGLE WITH DOUBLE VERTICAL BAR; ALARM CLOCK; STOPWATCH; TIMER CLOCK
HOURGLASS WITH FLOWING SAND; BLACK MEDIUM LEFT-POINTING TRIANGLE
BLACK MEDIUM RIGHT-POINTING TRIANGLE; BLACK MEDIUM UP-POINTING TRIANGLE
BLACK MEDIUM DOWN-POINTING TRIANGLE; DOUBLE VERTICAL BAR; BLACK SQUARE FOR STOP
BLACK CIRCLE FOR RECORD; POWER SYMBOL; POWER ON-OFF SYMBOL; POWER ON SYMBOL; POWER SLEEP SYMBOL
OBSERVER EYE SYMBOL
U+2400 SYMBOL FOR
NULL; START OF HEADING; START OF TEXT; END OF TEXT; END OF TRANSMISSION; ENQUIRY; ACKNOWLEDGE
BELL; BACKSPACE; HORIZONTAL TABULATION; LINE FEED; VERTICAL TABULATION; FORM FEED
CARRIAGE RETURN; SHIFT OUT; SHIFT IN; DATA LINK ESCAPE; DEVICE CONTROL ONE; DEVICE CONTROL TWO
DEVICE CONTROL THREE; DEVICE CONTROL FOUR; NEGATIVE ACKNOWLEDGE; SYNCHRONOUS IDLE
END OF TRANSMISSION BLOCK; CANCEL; END OF MEDIUM; SUBSTITUTE; ESCAPE; FILE SEPARATOR
GROUP SEPARATOR; RECORD SEPARATOR; UNIT SEPARATOR; SPACE; DELETE
U+2422
BLANK SYMBOL; OPEN BOX; SYMBOL FOR NEWLINE; SYMBOL FOR DELETE FORM TWO
SYMBOL FOR SUBSTITUTE FORM TWO
U+2440 OCR
HOOK; CHAIR; FORK; INVERTED FORK; BELT BUCKLE; BOW TIE; BRANCH BANK IDENTIFICATION
AMOUNT OF CHECK; DASH; CUSTOMER ACCOUNT NUMBER; DOUBLE BACKSLASH
U+2460 CIRCLED DIGIT
ONE; TWO; THREE; FOUR; FIVE; SIX; SEVEN; EIGHT; NINE
U+2469 CIRCLED NUMBER
TEN; ELEVEN; TWELVE; THIRTEEN; FOURTEEN; FIFTEEN; SIXTEEN; SEVENTEEN; EIGHTEEN; NINETEEN; TWENTY
U+2474 PARENTHESIZED DIGIT
ONE; TWO; THREE; FOUR; FIVE; SIX; SEVEN; EIGHT; NINE
U+247D PARENTHESIZED NUMBER
TEN; ELEVEN; TWELVE; THIRTEEN; FOURTEEN; FIFTEEN; SIXTEEN; SEVENTEEN; EIGHTEEN; NINETEEN; TWENTY
U+2488 DIGIT
ONE FULL STOP; TWO FULL STOP; THREE FULL STOP; FOUR FULL STOP; FIVE FULL STOP; SIX FULL STOP
SEVEN FULL STOP; EIGHT FULL STOP; NINE FULL STOP
U+2491 NUMBER
TEN FULL STOP; ELEVEN FULL STOP; TWELVE FULL STOP; THIRTEEN FULL STOP; FOURTEEN FULL STOP
FIFTEEN FULL STOP; SIXTEEN FULL STOP; SEVENTEEN FULL STOP; EIGHTEEN FULL STOP
NINETEEN FULL STOP; TWENTY FULL STOP
U+249C PARENTHESIZED LATIN SMALL LETTER
A; B; C; D; E; F; G; H; I; J; K; L; M; N; O; P; Q; R; S; T; U; V; W; X; Y; Z
U+24B6 CIRCLED LATIN CAPITAL LETTER
A; B; C; D; E; F; G; H; I; J; K; L; M; N; O; P; Q; R; S; T; U; V; W; X; Y; Z
U+24D0 CIRCLED LATIN SMALL LETTER
A; B; C; D; E; F; G; H; I; J; K; L; M; N; O; P; Q; R; S; T; U; V; W; X; Y; Z
U+24EA
CIRCLED DIGIT ZERO
U+24EB NEGATIVE CIRCLED NUMBER
ELEVEN; TWELVE; THIRTEEN; FOURTEEN; FIFTEEN; SIXTEEN; SEVENTEEN; EIGHTEEN; NINETEEN; TWENTY
U+24F5 DOUBLE CIRCLED DIGIT
ONE; TWO; THREE; FOUR; FIVE; SIX; SEVEN; EIGHT; NINE
U+24FE
DOUBLE CIRCLED NUMBER TEN; NEGATIVE CIRCLED DIGIT ZERO
U+2500 BOX DRAWINGS
LIGHT HORIZONTAL; HEAVY HORIZONTAL; LIGHT VERTICAL; HEAVY VERTICAL; LIGHT TRIPLE DASH HORIZONTAL
HEAVY TRIPLE DASH HORIZONTAL; LIGHT TRIPLE DASH VERTICAL; HEAVY TRIPLE DASH VERTICAL
LIGHT QUADRUPLE DASH HORIZONTAL; HEAVY QUADRUPLE DASH HORIZONTAL; LIGHT QUADRUPLE DASH VERTICAL
HEAVY QUADRUPLE DASH VERTICAL; LIGHT DOWN AND RIGHT; DOWN LIGHT AND RIGHT HEAVY
DOWN HEAVY AND RIGHT LIGHT; HEAVY DOWN AND RIGHT; LIGHT DOWN AND LEFT; DOWN LIGHT AND LEFT HEAVY
DOWN HEAVY AND LEFT LIGHT; HEAVY DOWN AND LEFT; LIGHT UP AND RIGHT; UP LIGHT AND RIGHT HEAVY
UP HEAVY AND RIGHT LIGHT; HEAVY UP AND RIGHT; LIGHT UP AND LEFT; UP LIGHT AND LEFT HEAVY
UP HEAVY AND LEFT LIGHT; HEAVY UP AND LEFT; LIGHT VERTICAL AND RIGHT
VERTICAL LIGHT AND RIGHT HEAVY; UP HEAVY AND RIGHT DOWN LIGHT; DOWN HEAVY AND RIGHT UP LIGHT
VERTICAL HEAVY AND RIGHT LIGHT; DOWN LIGHT AND RIGHT UP HEAVY; UP LIGHT AND RIGHT DOWN HEAVY
HEAVY VERTICAL AND RIGHT; LIGHT VERTICAL AND LEFT; VERTICAL LIGHT AND LEFT HEAVY
UP HEAVY AND LEFT DOWN LIGHT; DOWN HEAVY AND LEFT UP LIGHT; VERTICAL HEAVY AND LEFT LIGHT
DOWN LIGHT AND LEFT UP HEAVY; UP LIGHT AND LEFT DOWN HEAVY; HEAVY VERTICAL AND LEFT
LIGHT DOWN AND HORIZONTAL; LEFT HEAVY AND RIGHT DOWN LIGHT; RIGHT HEAVY AND LEFT DOWN LIGHT
DOWN LIGHT AND HORIZONTAL HEAVY; DOWN HEAVY AND HORIZONTAL LIGHT
RIGHT LIGHT AND LEFT DOWN HEAVY; LEFT LIGHT AND RIGHT DOWN HEAVY; HEAVY DOWN AND HORIZONTAL
LIGHT UP AND HORIZONTAL; LEFT HEAVY AND RIGHT UP LIGHT; RIGHT HEAVY AND LEFT UP LIGHT
UP LIGHT AND HORIZONTAL HEAVY; UP HEAVY AND HORIZONTAL LIGHT; RIGHT LIGHT AND LEFT UP HEAVY
LEFT LIGHT AND RIGHT UP HEAVY; HEAVY UP AND HORIZONTAL; LIGHT VERTICAL AND HORIZONTAL
LEFT HEAVY AND RIGHT VERTICAL LIGHT; RIGHT HEAVY AND LEFT VERTICAL LIGHT
VERTICAL LIGHT AND HORIZONTAL HEAVY; UP HEAVY AND DOWN HORIZONTAL LIGHT
DOWN HEAVY AND UP HORIZONTAL LIGHT; VERTICAL HEAVY AND HORIZONTAL LIGHT
LEFT UP HEAVY AND RIGHT DOWN LIGHT; RIGHT UP HEAVY AND LEFT DOWN LIGHT
LEFT DOWN HEAVY AND RIGHT UP LIGHT; RIGHT DOWN HEAVY AND LEFT UP LIGHT
DOWN LIGHT AND UP HORIZONTAL HEAVY; UP LIGHT AND DOWN HORIZONTAL HEAVY
RIGHT LIGHT AND LEFT VERTICAL HEAVY; LEFT LIGHT AND RIGHT VERTICAL HEAVY
HEAVY VERTICAL AND HORIZONTAL; LIGHT DOUBLE DASH HORIZONTAL; HEAVY DOUBLE DASH HORIZONTAL
LIGHT DOUBLE DASH VERTICAL; HEAVY DOUBLE DASH VERTICAL; DOUBLE HORIZONTAL; DOUBLE VERTICAL
DOWN SINGLE AND RIGHT DOUBLE; DOWN DOUBLE AND RIGHT SINGLE; DOUBLE DOWN AND RIGHT
DOWN SINGLE AND LEFT DOUBLE; DOWN DOUBLE AND LEFT SINGLE; DOUBLE DOWN AND LEFT
UP SINGLE AND RIGHT DOUBLE; UP DOUBLE AND RIGHT SINGLE; DOUBLE UP AND RIGHT
UP SINGLE AND LEFT DOUBLE; UP DOUBLE AND LEFT SINGLE; DOUBLE UP AND LEFT
VERTICAL SINGLE AND RIGHT DOUBLE; VERTICAL DOUBLE AND RIGHT SINGLE; DOUBLE VERTICAL AND RIGHT
VERTICAL SINGLE AND LEFT DOUBLE; VERTICAL DOUBLE AND LEFT SINGLE; DOUBLE VERTICAL AND LEFT
DOWN SINGLE AND HORIZONTAL DOUBLE; DOWN DOUBLE AND HORIZONTAL SINGLE; DOUBLE DOWN AND HORIZONTAL
UP SINGLE AND HORIZONTAL DOUBLE; UP DOUBLE AND HORIZONTAL SINGLE; DOUBLE UP AND HORIZONTAL
VERTICAL SINGLE AND HORIZONTAL DOUBLE; VERTICAL DOUBLE AND HORIZONTAL SINGLE
DOUBLE VERTICAL AND HORIZONTAL; LIGHT ARC DOWN AND RIGHT; LIGHT ARC DOWN AND LEFT
LIGHT ARC UP AND LEFT; LIGHT ARC UP AND RIGHT; LIGHT DIAGONAL UPPER RIGHT TO LOWER LEFT
LIGHT DIAGONAL UPPER LEFT TO LOWER RIGHT; LIGHT DIAGONAL CROSS; LIGHT LEFT; LIGHT UP
LIGHT RIGHT; LIGHT DOWN; HEAVY LEFT; HEAVY UP; HEAVY RIGHT; HEAVY DOWN
LIGHT LEFT AND HEAVY RIGHT; LIGHT UP AND HEAVY DOWN; HEAVY LEFT AND LIGHT RIGHT
HEAVY UP AND LIGHT DOWN
U+2580
UPPER HALF BLOCK; LOWER ONE EIGHTH BLOCK; LOWER ONE QUARTER BLOCK; LOWER THREE EIGHTHS BLOCK
LOWER HALF BLOCK; LOWER FIVE EIGHTHS BLOCK; LOWER THREE QUARTERS BLOCK
LOWER SEVEN EIGHTHS BLOCK; FULL BLOCK; LEFT SEVEN EIGHTHS BLOCK; LEFT THREE QUARTERS BLOCK
LEFT FIVE EIGHTHS BLOCK; LEFT HALF BLOCK; LEFT THREE EIGHTHS BLOCK; LEFT ONE QUARTER BLOCK
LEFT ONE EIGHTH BLOCK; RIGHT HALF BLOCK; LIGHT SHADE; MEDIUM SHADE; DARK SHADE
UPPER ONE EIGHTH BLOCK; RIGHT ONE EIGHTH BLOCK; QUADRANT LOWER LEFT; QUADRANT LOWER RIGHT
U+2598 QUADRANT UPPER
LEFT; LEFT AND LOWER LEFT AND LOWER RIGHT; LEFT AND LOWER RIGHT
LEFT AND UPPER RIGHT AND LOWER LEFT; LEFT AND UPPER RIGHT AND LOWER RIGHT; RIGHT
RIGHT AND LOWER LEFT; RIGHT AND LOWER LEFT AND LOWER RIGHT"

end Highlighting.Unicode.Names
