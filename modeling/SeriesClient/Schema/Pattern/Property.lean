/-! Classes of characters by the name of a Unicode property, as a pattern names them after `\p`. Case,
blanks, hyphens, underscores and a leading `is` do not count in a name. -/

namespace SeriesClient.Schema.Pattern

/-- A property or a value of one: its names, and the room in bytes that its class takes when a pattern
is compiled. The room of most rarer classes is not known: 3000, 5000, 10000 and 20000 stand for a guess. -/
structure PropertyClass where
  names : List String
  room : Nat

/-- Reads a table in which the classes stand apart by semicolons, the room after the names. -/
def readClasses (table : String) : List PropertyClass :=
  (table.splitOn ";").map fun entry =>
    let words := (entry.map fun c => if c = '\n' then ' ' else c).splitOn " " |>.filter (· != "")
    ⟨words.dropLast, ((words.getLast?).bind String.toNat?).getD 0⟩

/-- General categories, and the classes of all, of all assigned and of the ASCII characters. -/
def categories : List PropertyClass := readClasses "c other 43204; cc control cntrl 204; cf format 1784; cn unassigned 42516; co privateuse 864;
l letter 43216; lc casedletter 9640; ll lowercaseletter 27740; lm modifierletter 5256;
lo otherletter 34532; lt titlecaseletter 552; lu uppercaseletter 26672;
m mark combiningmark 19012; mc spacingmark 10448; me enclosingmark 468; mn nonspacingmark 19700;
n number 9884; nd decimalnumber digit 5184; nl letternumber 1212; no othernumber 5100;
p punctuation punct 11952; pc connectorpunctuation 540; pd dashpunctuation 1392;
pe closepunctuation 3504; pf finalpunctuation 552; pi initialpunctuation 588;
po otherpunctuation 11280; ps openpunctuation 3644; s symbol 15936; sc currencysymbol 1720;
sk modifiersymbol 2020; sm mathsymbol 4160; so othersymbol 13264; z separator 608;
zl lineseparator 164; zp paragraphseparator 164; zs spaceseparator 572; any 1000; assigned 20000;
ascii 72"

def scripts : List PropertyClass := readClasses "adlm adlam 336; aghb caucasianalbanian 300; ahom 336; arab arabic 3268; armi imperialaramaic 232;
armn armenian 440; avst avestan 232; bali balinese 268; bamu bamum 432; bass bassavah 232;
batk batak 200; beng bengali 700; bhks bhaiksuki 372; bopo bopomofo 300; brah brahmi 336;
brai braille 164; bugi buginese 200; buhd buhid 164; cakm chakma 300;
cans canadianaboriginal 432; cari carian 264; cham 304; cher cherokee 436; chrs chorasmian 264;
copt coptic qaac 336; cpmn cyprominoan 264; cprt cypriot 376; cyrl cyrillic 1244;
deva devanagari 536; diak divesakuru 516; dogr dogra 196; dsrt deseret 264; dupl duployan 440;
egyp egyptianhieroglyphs 536; elba elbasan 196; elym elymaic 196; ethi ethiopic 2016;
geor georgian 652; glag glagolitic 508; gong gunjalagondi 444; gonm masaramgondi 480;
goth gothic 264; gran grantha 768; grek greek 2244; gujr gujarati 700; guru gurmukhi 772;
hang hangul 1456; hani han 3584; hano hanunoo 164; hatr hatran 268; hebr hebrew 584;
hira hiragana 740; hluw anatolianhieroglyphs 264; hmng pahawhhmong 476;
hmnp nyiakengpuachuehmong 336; hung oldhungarian 300; ital olditalic 232; java javanese 304;
kali kayahli 200; kana katakana 1220; kawi 336; khar kharoshthi 516; khmr khmer 372;
khoj khojki 300; kits khitansmallscript 400; knda kannada 664; kthi kaithi 300; lana taitham 444;
laoo lao 556; latn latin 2740; lepc lepcha 304; limb limbu 340; lina lineara 368;
linb linearb 580; lisu 296; lyci lycian 196; lydi lydian 232; mahj mahajani 196;
maka makasar 196; mand mandaic 200; mani manichaean 232; marc marchen 336; medf medefaidrin 264;
mend mendekikakui 300; merc meroiticcursive 336; mero meroitichieroglyphs 196;
mlym malayalam 448; modi 300; mong mongolian 540; mroo mro 268; mtei meeteimayek 268;
mult multani 340; mymr myanmar 532; nagm nagmundari 196; nand nandinagari 336;
narb oldnortharabian 196; nbat nabataean 232; newa 300; nkoo nko 168; nshu nushu 432;
ogam ogham 164; olck olchiki 164; orkh oldturkic 264; orya oriya 700; osge osage 300;
osma osmanya 232; ougr olduyghur 264; palm palmyrene 196; pauc paucinhau 196; perm oldpermic 196;
phag phagspa 164; phli inscriptionalpahlavi 232; phlp psalterpahlavi 268; phnx phoenician 232;
plrd miao 404; prti inscriptionalparthian 232; rjng rejang 268; rohg hanifirohingya 232;
runr runic 268; samr samaritan 200; sarb oldsoutharabian 196; saur saurashtra 268;
sgnw signwriting 336; shaw shavian 196; shrd sharada 332; sidd siddham 300; sind khudawadi 300;
sinh sinhala 724; sogd sogdian 264; sogo oldsogdian 196; sora sorasompeng 232; soyo soyombo 264;
sund sundanese 232; sylo sylotinagri 164; syrc syriac 372; tagb tagbanwa 236; takr takri 264;
tale taile 200; talu newtailue 340; taml tamil 940; tang tangut 600; tavt taiviet 268;
telu telugu 664; tfng tifinagh 304; tglg tagalog 200; thaa thaana 132; thai 232;
tibt tibetan 584; tirh tirhuta 300; tnsa tangsa 332; toto 196; ugar ugaritic 232; vaii vai 232;
vith vithkuqi 516; wara warangciti 300; wcho wancho 232; xpeo oldpersian 300; xsux cuneiform 572;
yezi yezidi 268; yiii yi 336; zanb zanabazarsquare 264; zinh inherited qaai 2444;
zyyy common 12544; gara garay 336; gukh gurungkhema 196; krai kiratrai 196; onao olonal 232;
sunu sunuwar 232; todr todhri 196; tutg tulutigalari 624"

/-- Properties that a character has or has not. -/
def binaryProperties : List PropertyClass := readClasses "asciihexdigit ahex 88; alphabetic alpha 47480; bidicontrol bidic 336; bidimirrored bidim 5560;
caseignorable ci 25024; cased 10436; changeswhencasefolded cwcf 25240;
changeswhencasemapped cwcm 8496; changeswhenlowercased cwl 24680;
changeswhentitlecased cwt 25556; changeswhenuppercased cwu 25624; dash 1632;
defaultignorablecodepoint di 1476; deprecated dep 736; diacritic dia 13688; emoji 7660;
emojicomponent ecomp 908; emojimodifier emod 196; emojimodifierbase ebase 2144;
emojipresentation epres 4856; extendedpictographic extpict 8172; extender ext 3084;
graphemebase grbase 55856; graphemeextend grext 20548; graphemelink grlink 3000;
hexdigit hex 376; hyphen 3000; idcompatmathcontinue 3000; idcompatmathstart 3000;
idcontinue idc 49908; idstart ids 43352; idsbinaryoperator idsb 300; idstrinaryoperator idst 164;
idsunaryoperator idsu 3000; ideographic ideo 3952; joincontrol joinc 164;
logicalorderexception loe 540; lowercase lower 28368; math 7368; modifiercombiningmark mcm 3000;
noncharactercodepoint nchar 1992; otheralphabetic oalpha 3000;
otherdefaultignorablecodepoint odi 3000; othergraphemeextend ogrext 3000;
otheridcontinue oidc 3000; otheridstart oids 3000; otherlowercase olower 3000;
othermath omath 3000; otheruppercase oupper 3000; patternsyntax patsyn 1792;
patternwhitespace patws 340; prependedconcatenationmark pcm 3000; quotationmark qmark 852;
radical 404; regionalindicator ri 196; sentenceterminal sterm 5796; softdotted sd 2248;
terminalpunctuation term 7316; unifiedideograph uideo 2740; uppercase upper 27152;
variationselector vs 500; whitespace wspace space 680; xidcontinue xidc 50296;
xidstart xids 43740"

def graphemeBreaks : List PropertyClass := readClasses "cn control 5000; cr 5000; ex extend 5000; l 5000; lf 5000; lv 5000; lvt 5000; pp prepend 5000;
ri regionalindicator 5000; sm spacingmark 5000; t 5000; v 5000; zwj 5000"

def wordBreaks : List PropertyClass := readClasses "le aletter 5000; cr 5000; dq doublequote 5000; extend 5000; ex extendnumlet 5000; fo format 5000;
hl hebrewletter 5000; ka katakana 5000; lf 5000; ml midletter 5000; mn midnum 5000;
mb midnumlet 5000; nl newline 5000; nu numeric 5000; ri regionalindicator 5000;
sq singlequote 5000; wsegspace 5000; zwj 5000"

def sentenceBreaks : List PropertyClass := readClasses "at aterm 5000; cl close 5000; cr 5000; ex extend 5000; fo format 5000; lf 5000; lo lower 5000;
nu numeric 5000; le oletter 5000; sc scontinue 5000; se sep 5000; sp 5000; st sterm 5000;
up upper 5000"

/-- The versions of Unicode. -/
def ages : List PropertyClass := readClasses "1.1 v11 10000; 2.0 v20 10000; 2.1 v21 10000; 3.0 v30 10000; 3.1 v31 10000; 3.2 v32 10000;
4.0 v40 10000; 4.1 v41 10000; 5.0 v50 10000; 5.1 v51 10000; 5.2 v52 10000; 6.0 v60 10000;
6.1 v61 10000; 6.2 v62 10000; 6.3 v63 10000; 7.0 v70 10000; 8.0 v80 10000; 9.0 v90 10000;
10.0 v100 10000; 11.0 v110 10000; 12.0 v120 10000; 12.1 v121 10000; 13.0 v130 10000;
14.0 v140 10000; 15.0 v150 10000; 15.1 v151 10000; 16.0 v160 10000"

def findClass (name : String) (classes : List PropertyClass) : Option Nat :=
  (classes.find? (·.names.contains name)).map (·.room)

/-- A name without what does not count in it. `isc` is the name of a property that has no class. -/
def normalizeName (name : List Char) : String :=
  let (cut, rest) := match name with
    | a :: b :: rest => if a.toLower = 'i' && b.toLower = 's' then (true, rest) else (false, name)
    | _ => (false, name)
  let kept := (rest.filter fun c => c.toNat < 0x80 && c != ' ' && c != '_' && c != '-').map Char.toLower
  if cut && kept = ['c'] then "isc" else String.ofList kept

/-- The room of a class by the name of a property without a value, of a category or of a script. -/
def loneClass? (name : String) : Option Nat :=
  (findClass name binaryProperties).or ((findClass name categories).or (findClass name scripts))

def valueClass? (property value : String) : Option Nat :=
  if property = "gc" || property = "generalcategory" then findClass value categories
  else if ["sc", "script", "scx", "scriptextensions"].contains property then findClass value scripts
  else if property = "age" then findClass value ages
  else if property = "gcb" || property = "graphemeclusterbreak" then findClass value graphemeBreaks
  else if property = "wb" || property = "wordbreak" then findClass value wordBreaks
  else if property = "sb" || property = "sentencebreak" then findClass value sentenceBreaks
  else none

/-- Splits before the first occurrence of a text, which is left out. -/
def splitAtText? (mark : List Char) : List Char → Option (List Char × List Char)
  | [] => none
  | c :: rest =>
    if mark.isPrefixOf (c :: rest) then some ([], (c :: rest).drop mark.length)
    else (splitAtText? mark rest).map fun (before, after) => (c :: before, after)

/-- The room of the class that a query names, if there is such a class. -/
def propertyRoom? (query : List Char) : Option Nat :=
  match (splitAtText? ['!', '='] query).or
      ((splitAtText? [':'] query).or (splitAtText? ['='] query)) with
  | some (property, value) => valueClass? (normalizeName property) (normalizeName value)
  | none => loneClass? (normalizeName query)

end SeriesClient.Schema.Pattern
