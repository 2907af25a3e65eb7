/-!
# Names of Brahmic scripts

The scripts from Brahmi to Tamil fractions.

Each table holds stretches of characters. A stretch starts with a line that gives its first code
point and the words that its names begin with; the lines after it give the rest of the names of
the characters from there on.

## Main definitions

* `brahmic` -- the table.
-/
namespace Highlighting.Unicode.Names

/-- Names of Brahmic scripts. -/
def brahmic : String :=
"U+11000 BRAHMI SIGN
CANDRABINDU; ANUSVARA; VISARGA; JIHVAMULIYA; UPADHMANIYA
U+11005 BRAHMI LETTER
A; AA; I; II; U; UU; VOCALIC R; VOCALIC RR; VOCALIC L; VOCALIC LL; E; AI; O; AU; KA; KHA; GA
GHA; NGA; CA; CHA; JA; JHA; NYA; TTA; TTHA; DDA; DDHA; NNA; TA; THA; DA; DHA; NA; PA; PHA; BA
BHA; MA; YA; RA; LA; VA; SHA; SSA; SA; HA; LLA; OLD TAMIL LLLA; OLD TAMIL RRA; OLD TAMIL NNNA
U+11038 BRAHMI VOWEL SIGN
AA; BHATTIPROLU AA; I; II; U; UU; VOCALIC R; VOCALIC RR; VOCALIC L; VOCALIC LL; E; AI; O; AU
U+11046 BRAHMI
VIRAMA; DANDA; DOUBLE DANDA
U+11049 BRAHMI PUNCTUATION
DOT; DOUBLE DOT; LINE; CRESCENT BAR; LOTUS
U+11052 BRAHMI NUMBER
ONE; TWO; THREE; FOUR; FIVE; SIX; SEVEN; EIGHT; NINE; TEN; TWENTY; THIRTY; FORTY; FIFTY; SIXTY
SEVENTY; EIGHTY; NINETY; ONE HUNDRED; ONE THOUSAND
U+11066 BRAHMI DIGIT
ZERO; ONE; TWO; THREE; FOUR; FIVE; SIX; SEVEN; EIGHT; NINE
U+11070 BRAHMI
SIGN OLD TAMIL VIRAMA; LETTER OLD TAMIL SHORT E; LETTER OLD TAMIL SHORT O
VOWEL SIGN OLD TAMIL SHORT E; VOWEL SIGN OLD TAMIL SHORT O; LETTER OLD TAMIL LLA
U+1107F
BRAHMI NUMBER JOINER
U+11080 KAITHI SIGN
CANDRABINDU; ANUSVARA; VISARGA
U+11083 KAITHI LETTER
A; AA; I; II; U; UU; E; AI; O; AU; KA; KHA; GA; GHA; NGA; CA; CHA; JA; JHA; NYA; TTA; TTHA; DDA
DDDHA; DDHA; RHA; NNA; TA; THA; DA; DHA; NA; PA; PHA; BA; BHA; MA; YA; RA; LA; VA; SHA; SSA; SA
HA
U+110B0 KAITHI VOWEL SIGN
AA; I; II; U; UU; E; AI; O; AU
U+110B9 KAITHI
SIGN VIRAMA; SIGN NUKTA; ABBREVIATION SIGN; ENUMERATION SIGN; NUMBER SIGN; SECTION MARK
DOUBLE SECTION MARK; DANDA; DOUBLE DANDA; VOWEL SIGN VOCALIC R
U+110CD
KAITHI NUMBER SIGN ABOVE
U+110D0 SORA SOMPENG LETTER
SAH; TAH; BAH; CAH; DAH; GAH; MAH; NGAH; LAH; NAH; VAH; PAH; YAH; RAH; HAH; KAH; JAH; NYAH; AH
EEH; IH; UH; OH; EH; MAE
U+110F0 SORA SOMPENG DIGIT
ZERO; ONE; TWO; THREE; FOUR; FIVE; SIX; SEVEN; EIGHT; NINE
U+11100 CHAKMA SIGN
CANDRABINDU; ANUSVARA; VISARGA
U+11103 CHAKMA LETTER
AA; I; U; E; KAA; KHAA; GAA; GHAA; NGAA; CAA; CHAA; JAA; JHAA; NYAA; TTAA; TTHAA; DDAA; DDHAA
NNAA; TAA; THAA; DAA; DHAA; NAA; PAA; PHAA; BAA; BHAA; MAA; YYAA; YAA; RAA; LAA; WAA; SAA; HAA
U+11127 CHAKMA VOWEL SIGN
A; I; II; U; UU; E; AI; O; AU; OI
U+11131 CHAKMA
O MARK; AU MARK; VIRAMA; MAAYYAA
U+11136 CHAKMA DIGIT
ZERO; ONE; TWO; THREE; FOUR; FIVE; SIX; SEVEN; EIGHT; NINE
U+11140 CHAKMA
SECTION MARK; DANDA; DOUBLE DANDA; QUESTION MARK; LETTER LHAA; VOWEL SIGN AA; VOWEL SIGN EI
LETTER VAA
U+11150 MAHAJANI LETTER
A; I; U; E; O; KA; KHA; GA; GHA; CA; CHA; JA; JHA; NYA; TTA; TTHA; DDA; DDHA; NNA; TA; THA; DA
DHA; NA; PA; PHA; BA; BHA; MA; RA; LA; VA; SA; HA; RRA
U+11173 MAHAJANI
SIGN NUKTA; ABBREVIATION SIGN; SECTION MARK; LIGATURE SHRI
U+11180 SHARADA SIGN
CANDRABINDU; ANUSVARA; VISARGA
U+11183 SHARADA LETTER
A; AA; I; II; U; UU; VOCALIC R; VOCALIC RR; VOCALIC L; VOCALIC LL; E; AI; O; AU; KA; KHA; GA
GHA; NGA; CA; CHA; JA; JHA; NYA; TTA; TTHA; DDA; DDHA; NNA; TA; THA; DA; DHA; NA; PA; PHA; BA
BHA; MA; YA; RA; LA; LLA; VA; SHA; SSA; SA; HA
U+111B3 SHARADA VOWEL SIGN
AA; I; II; U; UU; VOCALIC R; VOCALIC RR; VOCALIC L; VOCALIC LL; E; AI; O; AU
U+111C0 SHARADA
SIGN VIRAMA; SIGN AVAGRAHA; SIGN JIHVAMULIYA; SIGN UPADHMANIYA; OM; DANDA; DOUBLE DANDA
ABBREVIATION SIGN; SEPARATOR; SANDHI MARK; SIGN NUKTA; VOWEL MODIFIER MARK
EXTRA SHORT VOWEL MARK; SUTRA MARK; VOWEL SIGN PRISHTHAMATRA E; SIGN INVERTED CANDRABINDU
DIGIT ZERO; DIGIT ONE; DIGIT TWO; DIGIT THREE; DIGIT FOUR; DIGIT FIVE; DIGIT SIX; DIGIT SEVEN
DIGIT EIGHT; DIGIT NINE; EKAM; SIGN SIDDHAM; HEADSTROKE; CONTINUATION SIGN; SECTION MARK-1
SECTION MARK-2
U+111E1 SINHALA ARCHAIC DIGIT
ONE; TWO; THREE; FOUR; FIVE; SIX; SEVEN; EIGHT; NINE
U+111EA SINHALA ARCHAIC NUMBER
TEN; TWENTY; THIRTY; FORTY; FIFTY; SIXTY; SEVENTY; EIGHTY; NINETY; ONE HUNDRED; ONE THOUSAND
U+11200 KHOJKI LETTER
A; AA; I; U; E; AI; O; AU; KA; KHA; GA; GGA; GHA; NGA; CA; CHA; JA; JJA
U+11213 KHOJKI LETTER
NYA; TTA; TTHA; DDA; DDHA; NNA; TA; THA; DA; DDDA; DHA; NA; PA; PHA; BA; BBA; BHA; MA; YA; RA
LA; VA; SA; HA; LLA
U+1122C KHOJKI VOWEL SIGN
AA; I; II; U; E; AI; O; AU
U+11234 KHOJKI
SIGN ANUSVARA; SIGN VIRAMA; SIGN NUKTA; SIGN SHADDA; DANDA; DOUBLE DANDA; WORD SEPARATOR
SECTION MARK; DOUBLE SECTION MARK; ABBREVIATION SIGN; SIGN SUKUN
U+11280 MULTANI LETTER
A; I; U; E; KA; KHA; GA
U+11288
MULTANI LETTER GHA
U+1128A MULTANI LETTER
CA; CHA; JA; JJA
U+1128F MULTANI LETTER
NYA; TTA; TTHA; DDA; DDDA; DDHA; NNA; TA; THA; DA; DHA; NA; PA; PHA; BA
U+1129F MULTANI LETTER
BHA; MA; YA; RA; LA; VA; SA; HA; RRA; RHA
U+112A9
MULTANI SECTION MARK
U+112B0 KHUDAWADI LETTER
A; AA; I; II; U; UU; E; AI; O; AU; KA; KHA; GA; GGA; GHA; NGA; CA; CHA; JA; JJA; JHA; NYA; TTA
TTHA; DDA; DDDA; RRA; DDHA; NNA; TA; THA; DA; DHA; NA; PA; PHA; BA; BBA; BHA; MA; YA; RA; LA; VA
SHA; SA; HA
U+112DF
KHUDAWADI SIGN ANUSVARA
U+112E0 KHUDAWADI VOWEL SIGN
AA; I; II; U; UU; E; AI; O; AU
U+112E9 KHUDAWADI SIGN
NUKTA; VIRAMA
U+112F0 KHUDAWADI DIGIT
ZERO; ONE; TWO; THREE; FOUR; FIVE; SIX; SEVEN; EIGHT; NINE
U+11300 GRANTHA SIGN
COMBINING ANUSVARA ABOVE; CANDRABINDU; ANUSVARA; VISARGA
U+11305 GRANTHA LETTER
A; AA; I; II; U; UU; VOCALIC R; VOCALIC L
U+1130F GRANTHA LETTER
EE; AI
U+11313 GRANTHA LETTER
OO; AU; KA; KHA; GA; GHA; NGA; CA; CHA; JA; JHA; NYA; TTA; TTHA; DDA; DDHA; NNA; TA; THA; DA
DHA; NA
U+1132A GRANTHA LETTER
PA; PHA; BA; BHA; MA; YA; RA
U+11332 GRANTHA LETTER
LA; LLA
U+11335 GRANTHA LETTER
VA; SHA; SSA; SA; HA
U+1133B
COMBINING BINDU BELOW; GRANTHA SIGN NUKTA; GRANTHA SIGN AVAGRAHA
U+1133E GRANTHA VOWEL SIGN
AA; I; II; U; UU; VOCALIC R; VOCALIC RR
U+11347 GRANTHA VOWEL SIGN
EE; AI
U+1134B GRANTHA
VOWEL SIGN OO; VOWEL SIGN AU; SIGN VIRAMA
U+11350
GRANTHA OM
U+11357
GRANTHA AU LENGTH MARK
U+1135D GRANTHA
SIGN PLUTA; LETTER VEDIC ANUSVARA; LETTER VEDIC DOUBLE ANUSVARA; LETTER VOCALIC RR
LETTER VOCALIC LL; VOWEL SIGN VOCALIC L; VOWEL SIGN VOCALIC LL
U+11366 COMBINING GRANTHA DIGIT
ZERO; ONE; TWO; THREE; FOUR; FIVE; SIX
U+11370 COMBINING GRANTHA LETTER
A; KA; NA; VI; PA
U+11400 NEWA LETTER
A; AA; I; II; U; UU; VOCALIC R; VOCALIC RR; VOCALIC L; VOCALIC LL; E; AI; O; AU; KA; KHA; GA
GHA; NGA; NGHA; CA; CHA; JA; JHA; NYA; NYHA; TTA; TTHA; DDA; DDHA; NNA; TA; THA; DA; DHA; NA
NHA; PA; PHA; BA; BHA; MA; MHA; YA; RA; RHA; LA; LHA; WA; SHA; SSA; SA; HA
U+11435 NEWA VOWEL SIGN
AA; I; II; U; UU; VOCALIC R; VOCALIC RR; VOCALIC L; VOCALIC LL; E; AI; O; AU
U+11442 NEWA SIGN
VIRAMA; CANDRABINDU; ANUSVARA; VISARGA; NUKTA; AVAGRAHA; FINAL ANUSVARA
U+11449 NEWA
OM; SIDDHI; DANDA; DOUBLE DANDA; COMMA; GAP FILLER; ABBREVIATION SIGN; DIGIT ZERO; DIGIT ONE
DIGIT TWO; DIGIT THREE; DIGIT FOUR; DIGIT FIVE; DIGIT SIX; DIGIT SEVEN; DIGIT EIGHT; DIGIT NINE
DOUBLE COMMA; PLACEHOLDER MARK
U+1145D NEWA
INSERTION SIGN; SANDHI MARK; LETTER VEDIC ANUSVARA; SIGN JIHVAMULIYA; SIGN UPADHMANIYA
U+11480
TIRHUTA ANJI
U+11481 TIRHUTA LETTER
A; AA; I; II; U; UU; VOCALIC R; VOCALIC RR; VOCALIC L; VOCALIC LL; E; AI; O; AU; KA; KHA; GA
GHA; NGA; CA; CHA; JA; JHA; NYA; TTA; TTHA; DDA; DDHA; NNA; TA; THA; DA; DHA; NA; PA; PHA; BA
BHA; MA; YA; RA; LA; VA; SHA; SSA; SA; HA
U+114B0 TIRHUTA VOWEL SIGN
AA; I; II; U; UU; VOCALIC R; VOCALIC RR; VOCALIC L; VOCALIC LL; E; SHORT E; AI; O; SHORT O; AU
U+114BF TIRHUTA
SIGN CANDRABINDU; SIGN ANUSVARA; SIGN VISARGA; SIGN VIRAMA; SIGN NUKTA; SIGN AVAGRAHA; GVANG
ABBREVIATION SIGN; OM
U+114D0 TIRHUTA DIGIT
ZERO; ONE; TWO; THREE; FOUR; FIVE; SIX; SEVEN; EIGHT; NINE
U+11580 SIDDHAM LETTER
A; AA; I; II; U; UU; VOCALIC R; VOCALIC RR; VOCALIC L; VOCALIC LL; E; AI; O; AU; KA; KHA; GA
GHA; NGA; CA; CHA; JA; JHA; NYA; TTA; TTHA; DDA; DDHA; NNA; TA; THA; DA; DHA; NA; PA; PHA; BA
BHA; MA; YA; RA; LA; VA; SHA; SSA; SA; HA
U+115AF SIDDHAM VOWEL SIGN
AA; I; II; U; UU; VOCALIC R; VOCALIC RR
U+115B8 SIDDHAM VOWEL SIGN
E; AI; O; AU
U+115BC SIDDHAM
SIGN CANDRABINDU; SIGN ANUSVARA; SIGN VISARGA; SIGN VIRAMA; SIGN NUKTA; SIGN SIDDHAM; DANDA
DOUBLE DANDA; SEPARATOR DOT; SEPARATOR BAR; REPETITION MARK-1; REPETITION MARK-2
REPETITION MARK-3; END OF TEXT MARK
U+115CA SIDDHAM SECTION MARK
WITH TRIDENT AND U-SHAPED ORNAMENTS; WITH TRIDENT AND DOTTED CRESCENTS
WITH RAYS AND DOTTED CRESCENTS; WITH RAYS AND DOTTED DOUBLE CRESCENTS
WITH RAYS AND DOTTED TRIPLE CRESCENTS; DOUBLE RING; DOUBLE RING WITH RAYS; WITH DOUBLE CRESCENTS
WITH TRIPLE CRESCENTS; WITH QUADRUPLE CRESCENTS; WITH SEPTUPLE CRESCENTS; WITH CIRCLES AND RAYS
WITH CIRCLES AND TWO ENCLOSURES; WITH CIRCLES AND FOUR ENCLOSURES
U+115D8 SIDDHAM LETTER
THREE-CIRCLE ALTERNATE I; TWO-CIRCLE ALTERNATE I; TWO-CIRCLE ALTERNATE II; ALTERNATE U
U+115DC SIDDHAM VOWEL SIGN ALTERNATE
U; UU
U+11600 MODI LETTER
A; AA; I; II; U; UU; VOCALIC R; VOCALIC RR; VOCALIC L; VOCALIC LL; E; AI; O; AU; KA; KHA; GA
GHA; NGA; CA; CHA; JA; JHA; NYA; TTA; TTHA; DDA; DDHA; NNA; TA; THA; DA; DHA; NA; PA; PHA; BA
BHA; MA; YA; RA; LA; VA; SHA; SSA; SA; HA; LLA
U+11630 MODI VOWEL SIGN
AA; I; II; U; UU; VOCALIC R; VOCALIC RR; VOCALIC L; VOCALIC LL; E; AI; O; AU
U+1163D MODI
SIGN ANUSVARA; SIGN VISARGA; SIGN VIRAMA; SIGN ARDHACANDRA; DANDA; DOUBLE DANDA
ABBREVIATION SIGN; SIGN HUVA
U+11650 MODI DIGIT
ZERO; ONE; TWO; THREE; FOUR; FIVE; SIX; SEVEN; EIGHT; NINE
U+11660 MONGOLIAN
BIRGA WITH ORNAMENT; ROTATED BIRGA; DOUBLE BIRGA WITH ORNAMENT; TRIPLE BIRGA WITH ORNAMENT
BIRGA WITH DOUBLE ORNAMENT; ROTATED BIRGA WITH ORNAMENT; ROTATED BIRGA WITH DOUBLE ORNAMENT
INVERTED BIRGA; INVERTED BIRGA WITH DOUBLE ORNAMENT; SWIRL BIRGA; SWIRL BIRGA WITH ORNAMENT
SWIRL BIRGA WITH DOUBLE ORNAMENT; TURNED SWIRL BIRGA WITH DOUBLE ORNAMENT
U+11680 TAKRI LETTER
A; AA; I; II; U; UU; E; AI; O; AU; KA; KHA; GA; GHA; NGA; CA; CHA; JA; JHA; NYA; TTA; TTHA; DDA
DDHA; NNA; TA; THA; DA; DHA; NA; PA; PHA; BA; BHA; MA; YA; RA; LA; VA; SHA; SA; HA; RRA
U+116AB TAKRI SIGN
ANUSVARA; VISARGA
U+116AD TAKRI VOWEL SIGN
AA; I; II; U; UU; E; AI; O; AU
U+116B6 TAKRI
SIGN VIRAMA; SIGN NUKTA; LETTER ARCHAIC KHA; ABBREVIATION SIGN
U+116C0 TAKRI DIGIT
ZERO; ONE; TWO; THREE; FOUR; FIVE; SIX; SEVEN; EIGHT; NINE
U+11700 AHOM LETTER
KA; KHA; NGA; NA; TA; ALTERNATE TA; PA; PHA; BA; MA; JA; CHA; THA; RA; LA; SA; NYA; HA; A; DA
DHA; GA; ALTERNATE GA; GHA; BHA; JHA; ALTERNATE BA
U+1171D AHOM CONSONANT SIGN MEDIAL
LA; RA; LIGATING RA
U+11720 AHOM VOWEL SIGN
A; AA; I; II; U; UU; E; AW; O; AI; AM
U+1172B
AHOM SIGN KILLER
U+11730 AHOM DIGIT
ZERO; ONE; TWO; THREE; FOUR; FIVE; SIX; SEVEN; EIGHT; NINE
U+1173A AHOM
NUMBER TEN; NUMBER TWENTY; SIGN SMALL SECTION; SIGN SECTION; SIGN RULAI; SYMBOL VI
U+11740 AHOM LETTER
CA; TTA; TTHA; DDA; DDHA; NNA; LLA
U+11800 DOGRA LETTER
A; AA; I; II; U; UU; E; AI; O; AU; KA; KHA; GA; GHA; NGA; CA; CHA; JA; JHA; NYA; TTA; TTHA; DDA
DDHA; NNA; TA; THA; DA; DHA; NA; PA; PHA; BA; BHA; MA; YA; RA; LA; VA; SHA; SSA; SA; HA; RRA
U+1182C DOGRA VOWEL SIGN
AA; I; II; U; UU; VOCALIC R; VOCALIC RR; E; AI; O; AU
U+11837 DOGRA
SIGN ANUSVARA; SIGN VISARGA; SIGN VIRAMA; SIGN NUKTA; ABBREVIATION SIGN
U+118A0 WARANG CITI CAPITAL LETTER
NGAA; A; WI; YU; YA; YO; II; UU; E; O; ANG; GA; KO; ENY; YUJ; UC; ENN; ODD; TTE; NUNG; DA; AT
AM; BU; PU; HIYO; HOLO; HORR; HAR; SSUU; SII; VIYO
U+118C0 WARANG CITI SMALL LETTER
NGAA; A; WI; YU; YA; YO; II; UU; E; O; ANG; GA; KO; ENY; YUJ; UC; ENN; ODD; TTE; NUNG; DA; AT
AM; BU; PU; HIYO; HOLO; HORR; HAR; SSUU; SII; VIYO
U+118E0 WARANG CITI DIGIT
ZERO; ONE; TWO; THREE; FOUR; FIVE; SIX; SEVEN; EIGHT; NINE
U+118EA WARANG CITI NUMBER
TEN; TWENTY; THIRTY; FORTY; FIFTY; SIXTY; SEVENTY; EIGHTY; NINETY
U+118FF
WARANG CITI OM
U+11900 DIVES AKURU LETTER
A; AA; I; II; U; UU; E
U+11909
DIVES AKURU LETTER O
U+1190C DIVES AKURU LETTER
KA; KHA; GA; GHA; NGA; CA; CHA; JA
U+11915 DIVES AKURU LETTER
NYA; TTA
U+11918 DIVES AKURU LETTER
DDA; DDHA; NNA; TA; THA; DA; DHA; NA; PA; PHA; BA; BHA; MA; YA; YYA; RA; LA; VA; SHA; SSA; SA
HA; LLA; ZA
U+11930 DIVES AKURU VOWEL SIGN
AA; I; II; U; UU; E
U+11937 DIVES AKURU VOWEL SIGN
AI; O
U+1193B DIVES AKURU
SIGN ANUSVARA; SIGN CANDRABINDU; SIGN HALANTA; VIRAMA; PREFIXED NASAL SIGN; MEDIAL YA
INITIAL RA; MEDIAL RA; SIGN NUKTA; DOUBLE DANDA; GAP FILLER; END OF TEXT MARK
U+11950 DIVES AKURU DIGIT
ZERO; ONE; TWO; THREE; FOUR; FIVE; SIX; SEVEN; EIGHT; NINE
U+119A0 NANDINAGARI LETTER
A; AA; I; II; U; UU; VOCALIC R; VOCALIC RR
U+119AA NANDINAGARI LETTER
E; AI; O; AU; KA; KHA; GA; GHA; NGA; CA; CHA; JA; JHA; NYA; TTA; TTHA; DDA; DDHA; NNA; TA; THA
DA; DHA; NA; PA; PHA; BA; BHA; MA; YA; RA; LA; VA; SHA; SSA; SA; HA; LLA; RRA
U+119D1 NANDINAGARI VOWEL SIGN
AA; I; II; U; UU; VOCALIC R; VOCALIC RR
U+119DA NANDINAGARI
VOWEL SIGN E; VOWEL SIGN AI; VOWEL SIGN O; VOWEL SIGN AU; SIGN ANUSVARA; SIGN VISARGA
SIGN VIRAMA; SIGN AVAGRAHA; SIGN SIDDHAM; HEADSTROKE; VOWEL SIGN PRISHTHAMATRA E
U+11A00
ZANABAZAR SQUARE LETTER A
U+11A01 ZANABAZAR SQUARE VOWEL
SIGN I; SIGN UE; SIGN U; SIGN E; SIGN OE; SIGN O; SIGN AI; SIGN AU; SIGN REVERSED I; LENGTH MARK
U+11A0B ZANABAZAR SQUARE LETTER
KA; KHA; GA; GHA; NGA; CA; CHA; JA; NYA; TTA; TTHA; DDA; DDHA; NNA; TA; THA; DA; DHA; NA; PA
PHA; BA; BHA; MA; TSA; TSHA; DZA; DZHA; ZHA; ZA; -A; YA; RA; LA; VA; SHA; SSA; SA; HA; KSSA
U+11A33 ZANABAZAR SQUARE
FINAL CONSONANT MARK; SIGN VIRAMA; SIGN CANDRABINDU; SIGN CANDRABINDU WITH ORNAMENT
SIGN CANDRA WITH ORNAMENT; SIGN ANUSVARA; SIGN VISARGA; CLUSTER-INITIAL LETTER RA
CLUSTER-FINAL LETTER YA; CLUSTER-FINAL LETTER RA; CLUSTER-FINAL LETTER LA
CLUSTER-FINAL LETTER VA; INITIAL HEAD MARK; CLOSING HEAD MARK; MARK TSHEG; MARK SHAD
MARK DOUBLE SHAD; MARK LONG TSHEG; INITIAL DOUBLE-LINED HEAD MARK
CLOSING DOUBLE-LINED HEAD MARK; SUBJOINER
U+11A50
SOYOMBO LETTER A
U+11A51 SOYOMBO VOWEL SIGN
I; UE; U; E; O; OE; AI; AU; VOCALIC R; VOCALIC L
U+11A5B
SOYOMBO VOWEL LENGTH MARK
U+11A5C SOYOMBO LETTER
KA; KHA; GA; GHA; NGA; CA; CHA; JA; JHA; NYA; TTA; TTHA; DDA; DDHA; NNA; TA; THA; DA; DHA; NA
PA; PHA; BA; BHA; MA; TSA; TSHA; DZA; ZHA; ZA; -A; YA; RA; LA; VA; SHA; SSA; SA; HA; KSSA
U+11A84 SOYOMBO SIGN
JIHVAMULIYA; UPADHMANIYA
U+11A86 SOYOMBO CLUSTER-INITIAL LETTER
RA; LA; SHA; SA
U+11A8A SOYOMBO FINAL CONSONANT SIGN
G; K; NG; D; N; B; M; R; L; SH; S; -A
U+11A96 SOYOMBO
SIGN ANUSVARA; SIGN VISARGA; GEMINATION MARK; SUBJOINER; MARK TSHEG; MARK SHAD; MARK DOUBLE SHAD
MARK PLUTA; HEAD MARK WITH MOON AND SUN AND TRIPLE FLAME; HEAD MARK WITH MOON AND SUN AND FLAME
HEAD MARK WITH MOON AND SUN; TERMINAL MARK-1; TERMINAL MARK-2
U+11AB0 CANADIAN SYLLABICS NATTILIK
HI; HII; HO; HOO; HA; HAA; SHRI; SHRII; SHRO; SHROO; SHRA; SHRAA
U+11ABC CANADIAN SYLLABICS
SPE; SPI; SPO; SPA
U+11AC0 PAU CIN HAU LETTER
PA; KA; LA; MA; DA; ZA; VA; NGA; HA; GA; KHA; SA; BA; CA; TA; THA; NA; PHA; RA; FA; CHA; A; E; I
O; U; UA; IA
U+11ADC PAU CIN HAU LETTER FINAL
P; K; T; M; N; L; W; NG; Y
U+11AE5 PAU CIN HAU
RISING TONE LONG; RISING TONE; SANDHI GLOTTAL STOP; RISING TONE LONG FINAL; RISING TONE FINAL
SANDHI GLOTTAL STOP FINAL; SANDHI TONE LONG; SANDHI TONE; SANDHI TONE LONG FINAL
SANDHI TONE FINAL; MID-LEVEL TONE; GLOTTAL STOP VARIANT; MID-LEVEL TONE LONG FINAL
MID-LEVEL TONE FINAL; LOW-FALLING TONE LONG; LOW-FALLING TONE; GLOTTAL STOP
LOW-FALLING TONE LONG FINAL; LOW-FALLING TONE FINAL; GLOTTAL STOP FINAL
U+11C00 BHAIKSUKI LETTER
A; AA; I; II; U; UU; VOCALIC R; VOCALIC RR; VOCALIC L
U+11C0A BHAIKSUKI LETTER
E; AI; O; AU; KA; KHA; GA; GHA; NGA; CA; CHA; JA; JHA; NYA; TTA; TTHA; DDA; DDHA; NNA; TA; THA
DA; DHA; NA; PA; PHA; BA; BHA; MA; YA; RA; LA; VA; SHA; SSA; SA; HA
U+11C2F BHAIKSUKI VOWEL SIGN
AA; I; II; U; UU; VOCALIC R; VOCALIC RR; VOCALIC L
U+11C38 BHAIKSUKI VOWEL SIGN
E; AI; O; AU
U+11C3C BHAIKSUKI
SIGN CANDRABINDU; SIGN ANUSVARA; SIGN VISARGA; SIGN VIRAMA; SIGN AVAGRAHA; DANDA; DOUBLE DANDA
WORD SEPARATOR; GAP FILLER-1; GAP FILLER-2
U+11C50 BHAIKSUKI DIGIT
ZERO; ONE; TWO; THREE; FOUR; FIVE; SIX; SEVEN; EIGHT; NINE
U+11C5A BHAIKSUKI NUMBER
ONE; TWO; THREE; FOUR; FIVE; SIX; SEVEN; EIGHT; NINE; TEN; TWENTY; THIRTY; FORTY; FIFTY; SIXTY
SEVENTY; EIGHTY; NINETY
U+11C6C
BHAIKSUKI HUNDREDS UNIT MARK
U+11C70 MARCHEN
HEAD MARK; MARK SHAD
U+11C72 MARCHEN LETTER
KA; KHA; GA; NGA; CA; CHA; JA; NYA; TA; THA; DA; NA; PA; PHA; BA; MA; TSA; TSHA; DZA; WA; ZHA
ZA; -A; YA; RA; LA; SHA; SA; HA; A
U+11C92 MARCHEN SUBJOINED LETTER
KA; KHA; GA; NGA; CA; CHA; JA; NYA; TA; THA; DA; NA; PA; PHA; BA; MA; TSA; TSHA; DZA; WA; ZHA
ZA
U+11CA9 MARCHEN SUBJOINED LETTER
YA; RA; LA; SHA; SA; HA; A
U+11CB0 MARCHEN VOWEL SIGN
AA; I; U; E; O
U+11CB5 MARCHEN SIGN
ANUSVARA; CANDRABINDU
U+11D00 MASARAM GONDI LETTER
A; AA; I; II; U; UU; E
U+11D08 MASARAM GONDI LETTER
AI; O
U+11D0B MASARAM GONDI LETTER
AU; KA; KHA; GA; GHA; NGA; CA; CHA; JA; JHA; NYA; TTA; TTHA; DDA; DDHA; NNA; TA; THA; DA; DHA
NA; PA; PHA; BA; BHA; MA; YA; RA; LA; VA; SHA; SSA; SA; HA; LLA; KSSA; JNYA; TRA
U+11D31 MASARAM GONDI VOWEL SIGN
AA; I; II; U; UU; VOCALIC R
U+11D3A
MASARAM GONDI VOWEL SIGN E
U+11D3C MASARAM GONDI VOWEL SIGN
AI; O
U+11D3F MASARAM GONDI
VOWEL SIGN AU; SIGN ANUSVARA; SIGN VISARGA; SIGN NUKTA; SIGN CANDRA; SIGN HALANTA; VIRAMA; REPHA
RA-KARA
U+11D50 MASARAM GONDI DIGIT
ZERO; ONE; TWO; THREE; FOUR; FIVE; SIX; SEVEN; EIGHT; NINE
U+11D60 GUNJALA GONDI LETTER
A; AA; I; II; U; UU
U+11D67 GUNJALA GONDI LETTER
EE; AI
U+11D6A GUNJALA GONDI LETTER
OO; AU; YA; VA; BA; BHA; MA; KA; KHA; TA; THA; LA; GA; GHA; DA; DHA; NA; CA; CHA; TTA; TTHA; LLA
JA; JHA; DDA; DDHA; NGA; PA; PHA; HA; RA; SA
U+11D8A GUNJALA GONDI VOWEL SIGN
AA; I; II; U; UU
U+11D90 GUNJALA GONDI VOWEL SIGN
EE; AI
U+11D93 GUNJALA GONDI
VOWEL SIGN OO; VOWEL SIGN AU; SIGN ANUSVARA; SIGN VISARGA; VIRAMA; OM
U+11DA0 GUNJALA GONDI DIGIT
ZERO; ONE; TWO; THREE; FOUR; FIVE; SIX; SEVEN; EIGHT; NINE
U+11EE0 MAKASAR LETTER
KA; GA; NGA; PA; BA; MA; TA; DA; NA; CA; JA; NYA; YA; RA; LA; VA; SA; A
U+11EF2 MAKASAR
ANGKA; VOWEL SIGN I; VOWEL SIGN U; VOWEL SIGN E; VOWEL SIGN O; PASSIMBANG; END OF SECTION
U+11FB0
LISU LETTER YHA
U+11FC0 TAMIL FRACTION
ONE THREE-HUNDRED-AND-TWENTIETH; ONE ONE-HUNDRED-AND-SIXTIETH; ONE EIGHTIETH; ONE SIXTY-FOURTH
ONE FORTIETH; ONE THIRTY-SECOND; THREE EIGHTIETHS; THREE SIXTY-FOURTHS; ONE TWENTIETH
ONE SIXTEENTH-1; ONE SIXTEENTH-2; ONE TENTH; ONE EIGHTH; THREE TWENTIETHS; THREE SIXTEENTHS
ONE FIFTH; ONE QUARTER; ONE HALF-1; ONE HALF-2; THREE QUARTERS; DOWNSCALING FACTOR KIIZH
U+11FD5 TAMIL SIGN
NEL; CEVITU; AAZHAAKKU; UZHAKKU; MUUVUZHAKKU; KURUNI; PATHAKKU; MUKKURUNI; KAACU; PANAM; PON
VARAAKAN; PAARAM; KUZHI; VELI
U+11FE4 TAMIL
WET CULTIVATION SIGN; DRY CULTIVATION SIGN; LAND SIGN; SALT PAN SIGN; TRADITIONAL CREDIT SIGN
TRADITIONAL NUMBER SIGN; CURRENT SIGN; AND ODD SIGN; SPENT SIGN; TOTAL SIGN; IN POSSESSION SIGN
STARTING FROM SIGN; SIGN MUTHALIYA; SIGN VAKAIYARAA
U+11FFF
TAMIL PUNCTUATION END OF TEXT"

end Highlighting.Unicode.Names
