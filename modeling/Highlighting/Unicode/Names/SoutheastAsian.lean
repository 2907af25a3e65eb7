/-!
# Names of scripts of Southeast Asia and Tibet

Thai, Lao, Tibetan and Myanmar.

Each table holds stretches of characters. A stretch starts with a line that gives its first code
point and the words that its names begin with; the lines after it give the rest of the names of
the characters from there on.

## Main definitions

* `southeastAsian` -- the table.
-/
namespace Highlighting.Unicode.Names

/-- Names of scripts of Southeast Asia and Tibet. -/
def southeastAsian : String :=
"U+0E01 THAI CHARACTER
KO KAI; KHO KHAI; KHO KHUAT; KHO KHWAI; KHO KHON; KHO RAKHANG; NGO NGU; CHO CHAN; CHO CHING
CHO CHANG; SO SO; CHO CHOE; YO YING; DO CHADA; TO PATAK; THO THAN; THO NANGMONTHO; THO PHUTHAO
NO NEN; DO DEK; TO TAO; THO THUNG; THO THAHAN; THO THONG; NO NU; BO BAIMAI; PO PLA; PHO PHUNG
FO FA; PHO PHAN; FO FAN; PHO SAMPHAO; MO MA; YO YAK; RO RUA; RU; LO LING; LU; WO WAEN; SO SALA
SO RUSI; SO SUA; HO HIP; LO CHULA; O ANG; HO NOKHUK; PAIYANNOI; SARA A; MAI HAN-AKAT; SARA AA
SARA AM; SARA I; SARA II; SARA UE; SARA UEE; SARA U; SARA UU; PHINTHU
U+0E3F
THAI CURRENCY SYMBOL BAHT
U+0E40 THAI CHARACTER
SARA E; SARA AE; SARA O; SARA AI MAIMUAN; SARA AI MAIMALAI; LAKKHANGYAO; MAIYAMOK; MAITAIKHU
MAI EK; MAI THO; MAI TRI; MAI CHATTAWA; THANTHAKHAT; NIKHAHIT; YAMAKKAN; FONGMAN
U+0E50 THAI DIGIT
ZERO; ONE; TWO; THREE; FOUR; FIVE; SIX; SEVEN; EIGHT; NINE
U+0E5A THAI CHARACTER
ANGKHANKHU; KHOMUT
U+0E81 LAO LETTER
KO; KHO SUNG
U+0E84
LAO LETTER KHO TAM
U+0E86 LAO LETTER
PALI GHA; NGO; CO; PALI CHA; SO TAM
U+0E8C LAO LETTER
PALI JHA; NYO; PALI NYA; PALI TTA; PALI TTHA; PALI DDA; PALI DDHA; PALI NNA; DO; TO; THO SUNG
THO TAM; PALI DHA; NO; BO; PO; PHO SUNG; FO TAM; PHO TAM; FO SUNG; PALI BHA; MO; YO; LO LING
U+0EA5
LAO LETTER LO LOOT
U+0EA7 LAO LETTER
WO; SANSKRIT SHA; SANSKRIT SSA; SO SUNG; HO SUNG; PALI LLA; O; HO TAM
U+0EAF
LAO ELLIPSIS
U+0EB0 LAO VOWEL SIGN
A; MAI KAN; AA; AM; I; II; Y; YY; U; UU
U+0EBA LAO
SIGN PALI VIRAMA; VOWEL SIGN MAI KON; SEMIVOWEL SIGN LO; SEMIVOWEL SIGN NYO
U+0EC0 LAO VOWEL SIGN
E; EI; O; AY; AI
U+0EC6
LAO KO LA
U+0EC8 LAO TONE MAI
EK; THO; TI; CATAWA
U+0ECC LAO
CANCELLATION MARK; NIGGAHITA
U+0ED0 LAO DIGIT
ZERO; ONE; TWO; THREE; FOUR; FIVE; SIX; SEVEN; EIGHT; NINE
U+0EDC LAO
HO NO; HO MO; LETTER KHMU GO; LETTER KHMU NYO
U+0F00
TIBETAN SYLLABLE OM
U+0F01 TIBETAN MARK
GTER YIG MGO TRUNCATED A; GTER YIG MGO -UM RNAM BCAD MA; GTER YIG MGO -UM GTER TSHEG MA
INITIAL YIG MGO MDUN MA; CLOSING YIG MGO SGAB MA; CARET YIG MGO PHUR SHAD MA
YIG MGO TSHEG SHAD MA; SBRUL SHAD; BSKUR YIG MGO; BKA- SHOG YIG MGO; INTERSYLLABIC TSHEG
DELIMITER TSHEG BSTAR; SHAD; NYIS SHAD; TSHEG SHAD; NYIS TSHEG SHAD; RIN CHEN SPUNGS SHAD
RGYA GRAM SHAD; CARET -DZUD RTAGS ME LONG CAN; GTER TSHEG
U+0F15 TIBETAN LOGOTYPE SIGN
CHAD RTAGS; LHAG RTAGS
U+0F17 TIBETAN ASTROLOGICAL SIGN
SGRA GCAN -CHAR RTAGS; -KHYUD PA; SDONG TSHUGS
U+0F1A TIBETAN SIGN RDEL
DKAR GCIG; DKAR GNYIS; DKAR GSUM; NAG GCIG; NAG GNYIS; DKAR RDEL NAG
U+0F20 TIBETAN DIGIT
ZERO; ONE; TWO; THREE; FOUR; FIVE; SIX; SEVEN; EIGHT; NINE
U+0F2A TIBETAN DIGIT HALF
ONE; TWO; THREE; FOUR; FIVE; SIX; SEVEN; EIGHT; NINE; ZERO
U+0F34 TIBETAN MARK
BSDUS RTAGS; NGAS BZUNG NYI ZLA; CARET -DZUD RTAGS BZHI MIG CAN; NGAS BZUNG SGOR RTAGS; CHE MGO
TSA -PHRU; GUG RTAGS GYON; GUG RTAGS GYAS; ANG KHANG GYON; ANG KHANG GYAS
U+0F3E TIBETAN SIGN
YAR TSHES; MAR TSHES
U+0F40 TIBETAN LETTER
KA; KHA; GA; GHA; NGA; CA; CHA; JA
U+0F49 TIBETAN LETTER
NYA; TTA; TTHA; DDA; DDHA; NNA; TA; THA; DA; DHA; NA; PA; PHA; BA; BHA; MA; TSA; TSHA; DZA; DZHA
WA; ZHA; ZA; -A; YA; RA; LA; SHA; SSA; SA; HA; A; KSSA; FIXED-FORM RA; KKA; RRA
U+0F71 TIBETAN VOWEL SIGN
AA; I; II; U; UU; VOCALIC R; VOCALIC RR; VOCALIC L; VOCALIC LL; E; EE; O; OO
U+0F7E TIBETAN
SIGN RJES SU NGA RO; SIGN RNAM BCAD; VOWEL SIGN REVERSED I; VOWEL SIGN REVERSED II
SIGN NYI ZLA NAA DA; SIGN SNA LDAN; MARK HALANTA; MARK PALUTA; SIGN LCI RTAGS; SIGN YANG RTAGS
SIGN LCE TSA CAN; SIGN MCHU CAN; SIGN GRU CAN RGYINGS; SIGN GRU MED RGYINGS
SIGN INVERTED MCHU CAN; SUBJOINED SIGN LCE TSA CAN; SUBJOINED SIGN MCHU CAN
SUBJOINED SIGN INVERTED MCHU CAN
U+0F90 TIBETAN SUBJOINED LETTER
KA; KHA; GA; GHA; NGA; CA; CHA; JA
U+0F99 TIBETAN SUBJOINED LETTER
NYA; TTA; TTHA; DDA; DDHA; NNA; TA; THA; DA; DHA; NA; PA; PHA; BA; BHA; MA; TSA; TSHA; DZA; DZHA
WA; ZHA; ZA; -A; YA; RA; LA; SHA; SSA; SA; HA; A; KSSA; FIXED-FORM WA; FIXED-FORM YA
FIXED-FORM RA
U+0FBE TIBETAN KU RU
KHA; KHA BZHI MIG CAN
U+0FC0 TIBETAN CANTILLATION SIGN
HEAVY BEAT; LIGHT BEAT; CANG TE-U; SBUB -CHAL
U+0FC4 TIBETAN SYMBOL
DRIL BU; RDO RJE; PADMA GDAN; RDO RJE RGYA GRAM; PHUR PA; NOR BU; NOR BU NYIS -KHYIL
NOR BU GSUM -KHYIL; NOR BU BZHI -KHYIL
U+0FCE TIBETAN SIGN RDEL NAG
RDEL DKAR; GSUM
U+0FD0 TIBETAN MARK
BSKA- SHOG GI MGO RGYAN; MNYAM YIG GI MGO RGYAN; NYIS TSHEG; INITIAL BRDA RNYING YIG MGO MDUN MA
CLOSING BRDA RNYING YIG MGO SGAB MA
U+0FD5
RIGHT-FACING SVASTI SIGN; LEFT-FACING SVASTI SIGN; RIGHT-FACING SVASTI SIGN WITH DOTS
LEFT-FACING SVASTI SIGN WITH DOTS; TIBETAN MARK LEADING MCHAN RTAGS
TIBETAN MARK TRAILING MCHAN RTAGS
U+1000 MYANMAR LETTER
KA; KHA; GA; GHA; NGA; CA; CHA; JA; JHA; NYA; NNYA; TTA; TTHA; DDA; DDHA; NNA; TA; THA; DA; DHA
NA; PA; PHA; BA; BHA; MA; YA; RA; LA; WA; SA; HA; LLA; A; SHAN A; I; II; U; UU; E; MON E; O; AU
U+102B MYANMAR VOWEL SIGN
TALL AA; AA; I; II; U; UU; E; AI; MON II; MON O; E ABOVE
U+1036 MYANMAR SIGN
ANUSVARA; DOT BELOW; VISARGA; VIRAMA; ASAT
U+103B MYANMAR CONSONANT SIGN MEDIAL
YA; RA; WA; HA
U+103F MYANMAR
LETTER GREAT SA; DIGIT ZERO; DIGIT ONE; DIGIT TWO; DIGIT THREE; DIGIT FOUR; DIGIT FIVE
DIGIT SIX; DIGIT SEVEN; DIGIT EIGHT; DIGIT NINE; SIGN LITTLE SECTION; SIGN SECTION
SYMBOL LOCATIVE; SYMBOL COMPLETED; SYMBOL AFOREMENTIONED; SYMBOL GENITIVE; LETTER SHA
LETTER SSA
U+1052 MYANMAR LETTER VOCALIC
R; RR; L; LL
U+1056 MYANMAR VOWEL SIGN VOCALIC
R; RR; L; LL
U+105A MYANMAR LETTER MON
NGA; JHA; BBA; BBE
U+105E MYANMAR CONSONANT SIGN MON MEDIAL
NA; MA; LA
U+1061 MYANMAR
LETTER SGAW KAREN SHA; VOWEL SIGN SGAW KAREN EU; TONE MARK SGAW KAREN HATHI
TONE MARK SGAW KAREN KE PHO; LETTER WESTERN PWO KAREN THA; LETTER WESTERN PWO KAREN PWA
VOWEL SIGN WESTERN PWO KAREN EU; VOWEL SIGN WESTERN PWO KAREN UE
U+1069 MYANMAR SIGN WESTERN PWO KAREN TONE-
1; 2; 3; 4; 5
U+106E MYANMAR LETTER EASTERN PWO KAREN
NNA; YWA; GHWA
U+1071 MYANMAR VOWEL SIGN
GEBA KAREN I; KAYAH OE; KAYAH U; KAYAH EE
U+1075 MYANMAR LETTER SHAN
KA; KHA; GA; CA; ZA; NYA; DA; NA; PHA; FA; BA; THA; HA
U+1082
MYANMAR CONSONANT SIGN SHAN MEDIAL WA
U+1083 MYANMAR VOWEL SIGN SHAN
AA; E; E ABOVE; FINAL Y
U+1087 MYANMAR SIGN SHAN
TONE-2; TONE-3; TONE-5; TONE-6; COUNCIL TONE-2; COUNCIL TONE-3; COUNCIL EMPHATIC TONE
U+108E MYANMAR
LETTER RUMAI PALAUNG FA; SIGN RUMAI PALAUNG TONE-5
U+1090 MYANMAR SHAN DIGIT
ZERO; ONE; TWO; THREE; FOUR; FIVE; SIX; SEVEN; EIGHT; NINE
U+109A MYANMAR
SIGN KHAMTI TONE-1; SIGN KHAMTI TONE-3; VOWEL SIGN AITON A; VOWEL SIGN AITON AI; SYMBOL SHAN ONE
SYMBOL SHAN EXCLAMATION"

end Highlighting.Unicode.Names
