/-!
# Names of scripts of South Asia

The scripts from Devanagari to Sinhala.

Each table holds stretches of characters. A stretch starts with a line that gives its first code
point and the words that its names begin with; the lines after it give the rest of the names of
the characters from there on.

## Main definitions

* `southAsian` -- the table.
-/
namespace Highlighting.Unicode.Names

/-- Names of scripts of South Asia. -/
def southAsian : String :=
"U+0900 DEVANAGARI SIGN
INVERTED CANDRABINDU; CANDRABINDU; ANUSVARA; VISARGA
U+0904 DEVANAGARI LETTER
SHORT A; A; AA; I; II; U; UU; VOCALIC R; VOCALIC L; CANDRA E; SHORT E; E; AI; CANDRA O; SHORT O
O; AU; KA; KHA; GA; GHA; NGA; CA; CHA; JA; JHA; NYA; TTA; TTHA; DDA; DDHA; NNA; TA; THA; DA; DHA
NA; NNNA; PA; PHA; BA; BHA; MA; YA; RA; RRA; LA; LLA; LLLA; VA; SHA; SSA; SA; HA
U+093A DEVANAGARI
VOWEL SIGN OE; VOWEL SIGN OOE; SIGN NUKTA; SIGN AVAGRAHA
U+093E DEVANAGARI VOWEL SIGN
AA; I; II; U; UU; VOCALIC R; VOCALIC RR; CANDRA E; SHORT E; E; AI; CANDRA O; SHORT O; O; AU
U+094D DEVANAGARI
SIGN VIRAMA; VOWEL SIGN PRISHTHAMATRA E; VOWEL SIGN AW; OM; STRESS SIGN UDATTA
STRESS SIGN ANUDATTA; GRAVE ACCENT; ACUTE ACCENT; VOWEL SIGN CANDRA LONG E; VOWEL SIGN UE
VOWEL SIGN UUE; LETTER QA; LETTER KHHA; LETTER GHHA; LETTER ZA; LETTER DDDHA; LETTER RHA
LETTER FA; LETTER YYA; LETTER VOCALIC RR; LETTER VOCALIC LL; VOWEL SIGN VOCALIC L
VOWEL SIGN VOCALIC LL; DANDA; DOUBLE DANDA; DIGIT ZERO; DIGIT ONE; DIGIT TWO; DIGIT THREE
DIGIT FOUR; DIGIT FIVE; DIGIT SIX; DIGIT SEVEN; DIGIT EIGHT; DIGIT NINE; ABBREVIATION SIGN
SIGN HIGH SPACING DOT
U+0972 DEVANAGARI LETTER
CANDRA A; OE; OOE; AW; UE; UUE; MARWARI DDA; ZHA; HEAVY YA; GGA; JJA; GLOTTAL STOP; DDDA; BBA
U+0980 BENGALI
ANJI; SIGN CANDRABINDU; SIGN ANUSVARA; SIGN VISARGA
U+0985 BENGALI LETTER
A; AA; I; II; U; UU; VOCALIC R; VOCALIC L
U+098F BENGALI LETTER
E; AI
U+0993 BENGALI LETTER
O; AU; KA; KHA; GA; GHA; NGA; CA; CHA; JA; JHA; NYA; TTA; TTHA; DDA; DDHA; NNA; TA; THA; DA; DHA
NA
U+09AA BENGALI LETTER
PA; PHA; BA; BHA; MA; YA; RA
U+09B2
BENGALI LETTER LA
U+09B6 BENGALI LETTER
SHA; SSA; SA; HA
U+09BC BENGALI SIGN
NUKTA; AVAGRAHA
U+09BE BENGALI VOWEL SIGN
AA; I; II; U; UU; VOCALIC R; VOCALIC RR
U+09C7 BENGALI VOWEL SIGN
E; AI
U+09CB BENGALI
VOWEL SIGN O; VOWEL SIGN AU; SIGN VIRAMA; LETTER KHANDA TA
U+09D7
BENGALI AU LENGTH MARK
U+09DC BENGALI LETTER
RRA; RHA
U+09DF BENGALI LETTER
YYA; VOCALIC RR; VOCALIC LL
U+09E2 BENGALI VOWEL SIGN VOCALIC
L; LL
U+09E6 BENGALI DIGIT
ZERO; ONE; TWO; THREE; FOUR; FIVE; SIX; SEVEN; EIGHT; NINE
U+09F0 BENGALI
LETTER RA WITH MIDDLE DIAGONAL; LETTER RA WITH LOWER DIAGONAL; RUPEE MARK; RUPEE SIGN
U+09F4 BENGALI CURRENCY NUMERATOR
ONE; TWO; THREE; FOUR; ONE LESS THAN THE DENOMINATOR
U+09F9 BENGALI
CURRENCY DENOMINATOR SIXTEEN; ISSHAR; GANDA MARK; LETTER VEDIC ANUSVARA; ABBREVIATION SIGN
SANDHI MARK
U+0A01 GURMUKHI SIGN
ADAK BINDI; BINDI; VISARGA
U+0A05 GURMUKHI LETTER
A; AA; I; II; U; UU
U+0A0F GURMUKHI LETTER
EE; AI
U+0A13 GURMUKHI LETTER
OO; AU; KA; KHA; GA; GHA; NGA; CA; CHA; JA; JHA; NYA; TTA; TTHA; DDA; DDHA; NNA; TA; THA; DA
DHA; NA
U+0A2A GURMUKHI LETTER
PA; PHA; BA; BHA; MA; YA; RA
U+0A32 GURMUKHI LETTER
LA; LLA
U+0A35 GURMUKHI LETTER
VA; SHA
U+0A38 GURMUKHI LETTER
SA; HA
U+0A3C
GURMUKHI SIGN NUKTA
U+0A3E GURMUKHI VOWEL SIGN
AA; I; II; U; UU
U+0A47 GURMUKHI VOWEL SIGN
EE; AI
U+0A4B GURMUKHI
VOWEL SIGN OO; VOWEL SIGN AU; SIGN VIRAMA
U+0A51
GURMUKHI SIGN UDAAT
U+0A59 GURMUKHI LETTER
KHHA; GHHA; ZA; RRA
U+0A5E
GURMUKHI LETTER FA
U+0A66 GURMUKHI DIGIT
ZERO; ONE; TWO; THREE; FOUR; FIVE; SIX; SEVEN; EIGHT; NINE
U+0A70 GURMUKHI
TIPPI; ADDAK; IRI; URA; EK ONKAR; SIGN YAKASH; ABBREVIATION SIGN
U+0A81 GUJARATI SIGN
CANDRABINDU; ANUSVARA; VISARGA
U+0A85 GUJARATI LETTER
A; AA; I; II; U; UU; VOCALIC R; VOCALIC L
U+0A8D
GUJARATI VOWEL CANDRA E
U+0A8F GUJARATI
LETTER E; LETTER AI; VOWEL CANDRA O
U+0A93 GUJARATI LETTER
O; AU; KA; KHA; GA; GHA; NGA; CA; CHA; JA; JHA; NYA; TTA; TTHA; DDA; DDHA; NNA; TA; THA; DA; DHA
NA
U+0AAA GUJARATI LETTER
PA; PHA; BA; BHA; MA; YA; RA
U+0AB2 GUJARATI LETTER
LA; LLA
U+0AB5 GUJARATI LETTER
VA; SHA; SSA; SA; HA
U+0ABC GUJARATI SIGN
NUKTA; AVAGRAHA
U+0ABE GUJARATI VOWEL SIGN
AA; I; II; U; UU; VOCALIC R; VOCALIC RR; CANDRA E
U+0AC7 GUJARATI VOWEL SIGN
E; AI; CANDRA O
U+0ACB GUJARATI
VOWEL SIGN O; VOWEL SIGN AU; SIGN VIRAMA
U+0AD0
GUJARATI OM
U+0AE0 GUJARATI LETTER VOCALIC
RR; LL
U+0AE2 GUJARATI VOWEL SIGN VOCALIC
L; LL
U+0AE6 GUJARATI DIGIT
ZERO; ONE; TWO; THREE; FOUR; FIVE; SIX; SEVEN; EIGHT; NINE
U+0AF0 GUJARATI
ABBREVIATION SIGN; RUPEE SIGN
U+0AF9 GUJARATI
LETTER ZHA; SIGN SUKUN; SIGN SHADDA; SIGN MADDAH; SIGN THREE-DOT NUKTA ABOVE
SIGN CIRCLE NUKTA ABOVE; SIGN TWO-CIRCLE NUKTA ABOVE
U+0B01 ORIYA SIGN
CANDRABINDU; ANUSVARA; VISARGA
U+0B05 ORIYA LETTER
A; AA; I; II; U; UU; VOCALIC R; VOCALIC L
U+0B0F ORIYA LETTER
E; AI
U+0B13 ORIYA LETTER
O; AU; KA; KHA; GA; GHA; NGA; CA; CHA; JA; JHA; NYA; TTA; TTHA; DDA; DDHA; NNA; TA; THA; DA; DHA
NA
U+0B2A ORIYA LETTER
PA; PHA; BA; BHA; MA; YA; RA
U+0B32 ORIYA LETTER
LA; LLA
U+0B35 ORIYA LETTER
VA; SHA; SSA; SA; HA
U+0B3C ORIYA SIGN
NUKTA; AVAGRAHA
U+0B3E ORIYA VOWEL SIGN
AA; I; II; U; UU; VOCALIC R; VOCALIC RR
U+0B47 ORIYA VOWEL SIGN
E; AI
U+0B4B ORIYA
VOWEL SIGN O; VOWEL SIGN AU; SIGN VIRAMA
U+0B55 ORIYA
SIGN OVERLINE; AI LENGTH MARK; AU LENGTH MARK
U+0B5C ORIYA LETTER
RRA; RHA
U+0B5F ORIYA LETTER
YYA; VOCALIC RR; VOCALIC LL
U+0B62 ORIYA VOWEL SIGN VOCALIC
L; LL
U+0B66 ORIYA DIGIT
ZERO; ONE; TWO; THREE; FOUR; FIVE; SIX; SEVEN; EIGHT; NINE
U+0B70 ORIYA
ISSHAR; LETTER WA
U+0B72 ORIYA FRACTION
ONE QUARTER; ONE HALF; THREE QUARTERS; ONE SIXTEENTH; ONE EIGHTH; THREE SIXTEENTHS
U+0B82 TAMIL SIGN
ANUSVARA; VISARGA
U+0B85 TAMIL LETTER
A; AA; I; II; U; UU
U+0B8E TAMIL LETTER
E; EE; AI
U+0B92 TAMIL LETTER
O; OO; AU; KA
U+0B99 TAMIL LETTER
NGA; CA
U+0B9C
TAMIL LETTER JA
U+0B9E TAMIL LETTER
NYA; TTA
U+0BA3 TAMIL LETTER
NNA; TA
U+0BA8 TAMIL LETTER
NA; NNNA; PA
U+0BAE TAMIL LETTER
MA; YA; RA; RRA; LA; LLA; LLLA; VA; SHA; SSA; SA; HA
U+0BBE TAMIL VOWEL SIGN
AA; I; II; U; UU
U+0BC6 TAMIL VOWEL SIGN
E; EE; AI
U+0BCA TAMIL
VOWEL SIGN O; VOWEL SIGN OO; VOWEL SIGN AU; SIGN VIRAMA
U+0BD0
TAMIL OM
U+0BD7
TAMIL AU LENGTH MARK
U+0BE6 TAMIL DIGIT
ZERO; ONE; TWO; THREE; FOUR; FIVE; SIX; SEVEN; EIGHT; NINE
U+0BF0 TAMIL
NUMBER TEN; NUMBER ONE HUNDRED; NUMBER ONE THOUSAND; DAY SIGN; MONTH SIGN; YEAR SIGN; DEBIT SIGN
CREDIT SIGN; AS ABOVE SIGN; RUPEE SIGN; NUMBER SIGN
U+0C00 TELUGU SIGN
COMBINING CANDRABINDU ABOVE; CANDRABINDU; ANUSVARA; VISARGA; COMBINING ANUSVARA ABOVE
U+0C05 TELUGU LETTER
A; AA; I; II; U; UU; VOCALIC R; VOCALIC L
U+0C0E TELUGU LETTER
E; EE; AI
U+0C12 TELUGU LETTER
O; OO; AU; KA; KHA; GA; GHA; NGA; CA; CHA; JA; JHA; NYA; TTA; TTHA; DDA; DDHA; NNA; TA; THA; DA
DHA; NA
U+0C2A TELUGU LETTER
PA; PHA; BA; BHA; MA; YA; RA; RRA; LA; LLA; LLLA; VA; SHA; SSA; SA; HA
U+0C3C TELUGU SIGN
NUKTA; AVAGRAHA
U+0C3E TELUGU VOWEL SIGN
AA; I; II; U; UU; VOCALIC R; VOCALIC RR
U+0C46 TELUGU VOWEL SIGN
E; EE; AI
U+0C4A TELUGU
VOWEL SIGN O; VOWEL SIGN OO; VOWEL SIGN AU; SIGN VIRAMA
U+0C55 TELUGU
LENGTH MARK; AI LENGTH MARK
U+0C58 TELUGU LETTER
TSA; DZA; RRRA
U+0C5D
TELUGU LETTER NAKAARA POLLU
U+0C60 TELUGU LETTER VOCALIC
RR; LL
U+0C62 TELUGU VOWEL SIGN VOCALIC
L; LL
U+0C66 TELUGU DIGIT
ZERO; ONE; TWO; THREE; FOUR; FIVE; SIX; SEVEN; EIGHT; NINE
U+0C77
TELUGU SIGN SIDDHAM
U+0C78 TELUGU FRACTION DIGIT
ZERO FOR ODD POWERS OF FOUR; ONE FOR ODD POWERS OF FOUR; TWO FOR ODD POWERS OF FOUR
THREE FOR ODD POWERS OF FOUR; ONE FOR EVEN POWERS OF FOUR; TWO FOR EVEN POWERS OF FOUR
THREE FOR EVEN POWERS OF FOUR
U+0C7F
TELUGU SIGN TUUMU
U+0C80 KANNADA SIGN
SPACING CANDRABINDU; CANDRABINDU; ANUSVARA; VISARGA; SIDDHAM
U+0C85 KANNADA LETTER
A; AA; I; II; U; UU; VOCALIC R; VOCALIC L
U+0C8E KANNADA LETTER
E; EE; AI
U+0C92 KANNADA LETTER
O; OO; AU; KA; KHA; GA; GHA; NGA; CA; CHA; JA; JHA; NYA; TTA; TTHA; DDA; DDHA; NNA; TA; THA; DA
DHA; NA
U+0CAA KANNADA LETTER
PA; PHA; BA; BHA; MA; YA; RA; RRA; LA; LLA
U+0CB5 KANNADA LETTER
VA; SHA; SSA; SA; HA
U+0CBC KANNADA SIGN
NUKTA; AVAGRAHA
U+0CBE KANNADA VOWEL SIGN
AA; I; II; U; UU; VOCALIC R; VOCALIC RR
U+0CC6 KANNADA VOWEL SIGN
E; EE; AI
U+0CCA KANNADA
VOWEL SIGN O; VOWEL SIGN OO; VOWEL SIGN AU; SIGN VIRAMA
U+0CD5 KANNADA
LENGTH MARK; AI LENGTH MARK
U+0CDD KANNADA LETTER
NAKAARA POLLU; FA
U+0CE0 KANNADA LETTER VOCALIC
RR; LL
U+0CE2 KANNADA VOWEL SIGN VOCALIC
L; LL
U+0CE6 KANNADA DIGIT
ZERO; ONE; TWO; THREE; FOUR; FIVE; SIX; SEVEN; EIGHT; NINE
U+0CF1 KANNADA SIGN
JIHVAMULIYA; UPADHMANIYA
U+0D00 MALAYALAM SIGN
COMBINING ANUSVARA ABOVE; CANDRABINDU; ANUSVARA; VISARGA
U+0D04 MALAYALAM LETTER
VEDIC ANUSVARA; A; AA; I; II; U; UU; VOCALIC R; VOCALIC L
U+0D0E MALAYALAM LETTER
E; EE; AI
U+0D12 MALAYALAM LETTER
O; OO; AU; KA; KHA; GA; GHA; NGA; CA; CHA; JA; JHA; NYA; TTA; TTHA; DDA; DDHA; NNA; TA; THA; DA
DHA; NA; NNNA; PA; PHA; BA; BHA; MA; YA; RA; RRA; LA; LLA; LLLA; VA; SHA; SSA; SA; HA; TTTA
U+0D3B MALAYALAM SIGN
VERTICAL BAR VIRAMA; CIRCULAR VIRAMA; AVAGRAHA
U+0D3E MALAYALAM VOWEL SIGN
AA; I; II; U; UU; VOCALIC R; VOCALIC RR
U+0D46 MALAYALAM VOWEL SIGN
E; EE; AI
U+0D4A MALAYALAM
VOWEL SIGN O; VOWEL SIGN OO; VOWEL SIGN AU; SIGN VIRAMA; LETTER DOT REPH; SIGN PARA
U+0D54 MALAYALAM
LETTER CHILLU M; LETTER CHILLU Y; LETTER CHILLU LLL; AU LENGTH MARK
FRACTION ONE ONE-HUNDRED-AND-SIXTIETH; FRACTION ONE FORTIETH; FRACTION THREE EIGHTIETHS
FRACTION ONE TWENTIETH; FRACTION ONE TENTH; FRACTION THREE TWENTIETHS; FRACTION ONE FIFTH
LETTER ARCHAIC II; LETTER VOCALIC RR; LETTER VOCALIC LL; VOWEL SIGN VOCALIC L
VOWEL SIGN VOCALIC LL
U+0D66 MALAYALAM DIGIT
ZERO; ONE; TWO; THREE; FOUR; FIVE; SIX; SEVEN; EIGHT; NINE
U+0D70 MALAYALAM
NUMBER TEN; NUMBER ONE HUNDRED; NUMBER ONE THOUSAND; FRACTION ONE QUARTER; FRACTION ONE HALF
FRACTION THREE QUARTERS; FRACTION ONE SIXTEENTH; FRACTION ONE EIGHTH; FRACTION THREE SIXTEENTHS
DATE MARK
U+0D7A MALAYALAM LETTER CHILLU
NN; N; RR; L; LL; K
U+0D81 SINHALA SIGN
CANDRABINDU; ANUSVARAYA; VISARGAYA
U+0D85 SINHALA LETTER
AYANNA; AAYANNA; AEYANNA; AEEYANNA; IYANNA; IIYANNA; UYANNA; UUYANNA; IRUYANNA; IRUUYANNA
ILUYANNA; ILUUYANNA; EYANNA; EEYANNA; AIYANNA; OYANNA; OOYANNA; AUYANNA
U+0D9A SINHALA LETTER
ALPAPRAANA KAYANNA; MAHAAPRAANA KAYANNA; ALPAPRAANA GAYANNA; MAHAAPRAANA GAYANNA
KANTAJA NAASIKYAYA; SANYAKA GAYANNA; ALPAPRAANA CAYANNA; MAHAAPRAANA CAYANNA; ALPAPRAANA JAYANNA
MAHAAPRAANA JAYANNA; TAALUJA NAASIKYAYA; TAALUJA SANYOOGA NAAKSIKYAYA; SANYAKA JAYANNA
ALPAPRAANA TTAYANNA; MAHAAPRAANA TTAYANNA; ALPAPRAANA DDAYANNA; MAHAAPRAANA DDAYANNA
MUURDHAJA NAYANNA; SANYAKA DDAYANNA; ALPAPRAANA TAYANNA; MAHAAPRAANA TAYANNA; ALPAPRAANA DAYANNA
MAHAAPRAANA DAYANNA; DANTAJA NAYANNA
U+0DB3 SINHALA LETTER
SANYAKA DAYANNA; ALPAPRAANA PAYANNA; MAHAAPRAANA PAYANNA; ALPAPRAANA BAYANNA
MAHAAPRAANA BAYANNA; MAYANNA; AMBA BAYANNA; YAYANNA; RAYANNA
U+0DBD
SINHALA LETTER DANTAJA LAYANNA
U+0DC0 SINHALA LETTER
VAYANNA; TAALUJA SAYANNA; MUURDHAJA SAYANNA; DANTAJA SAYANNA; HAYANNA; MUURDHAJA LAYANNA
FAYANNA
U+0DCA
SINHALA SIGN AL-LAKUNA
U+0DCF SINHALA VOWEL SIGN
AELA-PILLA; KETTI AEDA-PILLA; DIGA AEDA-PILLA; KETTI IS-PILLA; DIGA IS-PILLA; KETTI PAA-PILLA
U+0DD6
SINHALA VOWEL SIGN DIGA PAA-PILLA
U+0DD8 SINHALA VOWEL SIGN
GAETTA-PILLA; KOMBUVA; DIGA KOMBUVA; KOMBU DEKA; KOMBUVA HAA AELA-PILLA
KOMBUVA HAA DIGA AELA-PILLA; KOMBUVA HAA GAYANUKITTA; GAYANUKITTA
U+0DE6 SINHALA LITH DIGIT
ZERO; ONE; TWO; THREE; FOUR; FIVE; SIX; SEVEN; EIGHT; NINE
U+0DF2 SINHALA
VOWEL SIGN DIGA GAETTA-PILLA; VOWEL SIGN DIGA GAYANUKITTA; PUNCTUATION KUNDDALIYA"

end Highlighting.Unicode.Names
