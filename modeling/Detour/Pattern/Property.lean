import Detour.Pattern.CharSet
import Detour.Text.Split
import Detour.Unicode.Table
/-!
# Properties of characters

A pattern may name a property that Unicode gives to characters. The tables say for each name which
of the characters that a set knows have the property, and how much room an automaton takes that
recognises all characters of Unicode with it by their bytes in UTF-8: 32 bytes for each state and 8 for
each way from a state to the next. Case, blanks, hyphens and low lines in a name do not matter, and
neither does a leading `is`.
-/

namespace Detour.Pattern

/-- A property of characters. -/
structure Property where
  /-- The characters that have it. -/
  members : CharSet
  /-- The room that an automaton for it takes, in bytes. -/
  size : Nat

/-- A property with its names. -/
structure NamedProperty extends Property where
  /-- The names, in plain form. -/
  names : List (List Char)

/-- Properties that a character has or has not: the names, the room and the members of each. -/
def binaryText : String :=
  "alphabetic,alpha 19200 41-5a,61-7a,17f,212a
   asciihexdigit,ahex 88 30-39,41-46,61-66
   bidicontrol,bidic 256 -
   cased 4608 41-5a,61-7a,17f,212a
   caseignorable,ci 12152 27,2e,3a,5e,60
   changeswhencasefolded,cwcf 6800 41-5a,17f,212a
   changeswhencasemapped,cwcm 3840 41-5a,61-7a,17f,212a
   changeswhenlowercased,cwl 6536 41-5a,212a
   changeswhentitlecased,cwt 6928 61-7a,17f
   changeswhenuppercased,cwu 6976 61-7a,17f
   dash 1088 2d
   defaultignorablecodepoint,di 1200 -
   deprecated,dep 608 -
   diacritic,dia 6864 5e,60
   emoji 3368 23,2a,30-39
   emojicomponent,ecomp 712 23,2a,30-39
   emojimodifier,emod 192 -
   emojimodifierbase,ebase 1184 -
   emojipresentation,epres 2456 -
   extendedpictographic,extpict 2520 -
   extender,ext 1768 -
   graphemebase,grbase 22080 20-7e,17f,212a
   graphemeextend,grext 9872 -
   graphemelink,grlink 1400 -
   hexdigit,hex 232 30-39,41-46,61-66
   hyphen 664 2d
   idcompatmathcontinue 688 -
   idcompatmathstart 528 -
   idcontinue,idc 19760 30-39,41-5a,5f,61-7a,17f,212a
   ideographic,ideo 1768 -
   idsbinaryoperator,idsb 160 -
   idstart,ids 17912 41-5a,61-7a,17f,212a
   idstrinaryoperator,idst 152 -
   idsunaryoperator,idsu 152 -
   joincontrol,joinc 152 -
   logicalorderexception,loe 360 -
   lowercase,lower 8216 61-7a,17f
   math 3032 2b,3c-3e,5e,7c,7e
   modifiercombiningmark,mcm 296 -
   noncharactercodepoint,nchar 440 -
   otheralphabetic,oalpha 7104 -
   otherdefaultignorablecodepoint,odi 800 -
   othergraphemeextend,ogrext 1232 -
   otheridcontinue,oidc 560 -
   otheridstart,oids 336 -
   otherlowercase,olower 1304 -
   othermath,omath 2880 5e
   otheruppercase,oupper 488 -
   patternsyntax,patsyn 920 21-2f,3a-40,5b-5e,60,7b-7e
   patternwhitespace,patws 224 9-d,20
   prependedconcatenationmark,pcm 520 -
   quotationmark,qmark 568 22,27
   radical 304 -
   regionalindicator,ri 192 -
   sentenceterminal,sterm 3472 21,2e,3f
   softdotted,sd 1536 69-6a
   terminalpunctuation,term 4336 21,2c,2e,3a-3b,3f
   unifiedideograph,uideo 1144 -
   uppercase,upper 7736 41-5a,212a
   variationselector,vs 424 -
   whitespace,wspace,space 424 9-d,20
   xidcontinue,xidc 19872 30-39,41-5a,5f,61-7a,17f,212a
   xidstart,xids 18064 41-5a,61-7a,17f,212a"

/-- The categories of characters. -/
def categoryText : String :=
  "any 424 0-7f,17f,212a
   ascii 72 0-7f
   assigned 20240 0-7f,17f,212a
   c,other 18720 0-1f,7f
   cc,control,cntrl 128 0-1f,7f
   cf,format 1400 -
   cn,unassigned 18936 -
   co,privateuse 400 -
   l,letter 17976 41-5a,61-7a,17f,212a
   lc,casedletter 4280 41-5a,61-7a,17f,212a
   ll,lowercaseletter 7992 61-7a,17f
   lm,modifierletter 2976 -
   lo,otherletter 14688 -
   lt,titlecaseletter 304 -
   lu,uppercaseletter 7472 41-5a,212a
   m,mark,combiningmark 9408 -
   mc,spacingmark 4824 -
   me,enclosingmark 384 -
   mn,nonspacingmark 9600 -
   n,number 4712 30-39
   nd,decimalnumber,digit 1584 30-39
   nl,letternumber 856 -
   no,othernumber 3584 -
   p,punctuation,punct 6592 21-23,25-2a,2c-2f,3a-3b,3f-40,5b-5d,5f,7b,7d
   pc,connectorpunctuation 360 5f
   pd,dashpunctuation 936 2d
   pe,closepunctuation 1552 29,5d,7d
   pf,finalpunctuation 304 -
   pi,initialpunctuation 312 -
   po,otherpunctuation 6136 21-23,25-27,2a,2c,2e-2f,3a-3b,3f-40,5c
   ps,openpunctuation 1616 28,5b,7b
   s,symbol 7848 24,2b,3c-3e,5e,60,7c,7e
   sc,currencysymbol 1280 24
   sk,modifiersymbol 1288 5e,60
   sm,mathsymbol 2176 2b,3c-3e,7c,7e
   so,othersymbol 6600 -
   z,separator 408 20
   zl,lineseparator 152 -
   zp,paragraphseparator 152 -
   zs,spaceseparator 400 20"

/-- The scripts that characters belong to. -/
def scriptText : String :=
  "adlm,adlam 256 -
   aghb,caucasianalbanian 248 -
   ahom 256 -
   arab,arabic 1624 -
   armi,imperialaramaic 200 -
   armn,armenian 312 -
   avst,avestan 200 -
   bali,balinese 208 -
   bamu,bamum 376 -
   bass,bassavah 200 -
   batk,batak 160 -
   beng,bengali 304 -
   bhks,bhaiksuki 264 -
   bopo,bopomofo 248 -
   brah,brahmi 256 -
   brai,braille 152 -
   bugi,buginese 160 -
   buhd,buhid 152 -
   cakm,chakma 248 -
   cans,canadianaboriginal 336 -
   cari,carian 240 -
   cham 216 -
   cher,cherokee 344 -
   chrs,chorasmian 240 -
   copt,coptic,qaac 256 -
   cpmn,cyprominoan 240 -
   cprt,cypriot 232 -
   cyrl,cyrillic 904 -
   deva,devanagari 432 -
   diak,divesakuru 296 -
   dogr,dogra 192 -
   dsrt,deseret 240 -
   dupl,duployan 312 -
   egyp,egyptianhieroglyphs 240 -
   elba,elbasan 192 -
   elym,elymaic 192 -
   ethi,ethiopic 1024 -
   gara,garay 256 -
   geor,georgian 392 -
   glag,glagolitic 360 -
   gong,gunjalagondi 280 -
   gonm,masaramgondi 288 -
   goth,gothic 240 -
   gran,grantha 352 -
   grek,greek 1232 -
   gujr,gujarati 304 -
   gukh,gurungkhema 152 -
   guru,gurmukhi 320 -
   hang,hangul 864 -
   hani,han 1632 -
   hano,hanunoo 152 -
   hatr,hatran 208 -
   hebr,hebrew 344 -
   hira,hiragana 536 -
   hluw,anatolianhieroglyphs 240 -
   hmng,pahawhhmong 320 -
   hmnp,nyiakengpuachuehmong 256 -
   hung,oldhungarian 248 -
   ital,olditalic 200 -
   java,javanese 216 -
   kali,kayahli 160 -
   kana,katakana 880 -
   kawi 256 -
   khar,kharoshthi 296 -
   khmr,khmer 264 -
   khoj,khojki 248 -
   kits,khitansmallscript 328 -
   knda,kannada 296 -
   krai,kiratrai 152 -
   kthi,kaithi 248 -
   lana,taitham 280 -
   laoo,lao 272 -
   latn,latin 1688 41-5a,61-7a,17f,212a
   lepc,lepcha 216 -
   limb,limbu 224 -
   lina,lineara 296 -
   linb,linearb 376 -
   lisu 280 -
   lyci,lycian 192 -
   lydi,lydian 200 -
   mahj,mahajani 192 -
   maka,makasar 192 -
   mand,mandaic 160 -
   mani,manichaean 200 -
   marc,marchen 256 -
   medf,medefaidrin 240 -
   mend,mendekikakui 248 -
   merc,meroiticcursive 256 -
   mero,meroitichieroglyphs 192 -
   mlym,malayalam 248 -
   modi 248 -
   mong,mongolian 400 -
   mroo,mro 208 -
   mtei,meeteimayek 208 -
   mult,multani 224 -
   mymr,myanmar 336 -
   nagm,nagmundari 192 -
   nand,nandinagari 256 -
   narb,oldnortharabian 192 -
   nbat,nabataean 200 -
   newa 248 -
   nkoo,nko 120 -
   nshu,nushu 376 -
   ogam,ogham 152 -
   olck,olchiki 152 -
   onao,olonal 200 -
   orkh,oldturkic 240 -
   orya,oriya 304 -
   osge,osage 248 -
   osma,osmanya 200 -
   ougr,olduyghur 240 -
   palm,palmyrene 192 -
   pauc,paucinhau 192 -
   perm,oldpermic 192 -
   phag,phagspa 152 -
   phli,inscriptionalpahlavi 200 -
   phlp,psalterpahlavi 208 -
   phnx,phoenician 200 -
   plrd,miao 304 -
   prti,inscriptionalparthian 200 -
   rjng,rejang 208 -
   rohg,hanifirohingya 200 -
   runr,runic 208 -
   samr,samaritan 160 -
   sarb,oldsoutharabian 192 -
   saur,saurashtra 208 -
   sgnw,signwriting 256 -
   shaw,shavian 192 -
   shrd,sharada 240 -
   sidd,siddham 248 -
   sind,khudawadi 248 -
   sinh,sinhala 408 -
   sogd,sogdian 240 -
   sogo,oldsogdian 192 -
   sora,sorasompeng 200 -
   soyo,soyombo 240 -
   sund,sundanese 200 -
   sunu,sunuwar 200 -
   sylo,sylotinagri 152 -
   syrc,syriac 264 -
   tagb,tagbanwa 168 -
   takr,takri 240 -
   tale,taile 160 -
   talu,newtailue 224 -
   taml,tamil 456 -
   tang,tangut 432 -
   tavt,taiviet 208 -
   telu,telugu 296 -
   tfng,tifinagh 216 -
   tglg,tagalog 160 -
   thaa,thaana 112 -
   thai 200 -
   tibt,tibetan 344 -
   tirh,tirhuta 248 -
   tnsa,tangsa 288 -
   todr,todhri 200 -
   toto 192 -
   tutg,tulutigalari 320 -
   ugar,ugaritic 200 -
   vaii,vai 200 -
   vith,vithkuqi 296 -
   wara,warangciti 248 -
   wcho,wancho 200 -
   xpeo,oldpersian 248 -
   xsux,cuneiform 360 -
   yezi,yezidi 208 -
   yiii,yi 256 -
   zanb,zanabazarsquare 240 -
   zinh,inherited,qaai 1616 -
   zyyy,common 6256 0-40,5b-60,7b-7f"

/-- The roles of characters in what a reader takes for one character. -/
def graphemeText : String :=
  "cn,control 1072 0-9,b-c,e-1f,7f
   cr 72 d
   ex,extend 9960 -
   l 288 -
   lf 72 a
   lv 2016 -
   lvt 2072 -
   pp,prepend 904 -
   ri,regionalindicator 192 -
   sm,spacingmark 4664 -
   t 288 -
   v 336 -
   zwj 152 -"

/-- The roles of characters in words. -/
def wordText : String :=
  "cr 72 d
   dq,doublequote 72 22
   ex,extendnumlet 408 5f
   extend 9568 -
   fo,format 1344 -
   hl,hebrewletter 304 -
   ka,katakana 928 -
   le,aletter 15664 41-5a,61-7a,17f,212a
   lf 72 a
   mb,midnumlet 312 2e
   ml,midletter 536 3a
   mn,midnum 568 2c,3b
   nl,newline 208 b-c
   nu,numeric 1456 30-39
   ri,regionalindicator 192 -
   sq,singlequote 72 27
   wsegspace 352 20
   zwj 152 -"

/-- The roles of characters in sentences. -/
def sentenceText : String :=
  "at,aterm 296 2e
   cl,close 1512 22,27-29,5b,5d,7b,7d
   cr 72 d
   ex,extend 9480 -
   fo,format 1352 -
   le,oletter 15400 -
   lf 72 a
   lo,lower 8200 61-7a,17f
   nu,numeric 1456 30-39
   sc,scontinue 776 2c-2d,3a
   se,sep 200 -
   sp 416 9,b-c,20
   st,sterm 3408 21,3f
   up,upper 7704 41-5a,212a"

/-- The versions of Unicode by which characters were known. -/
def ageText : String :=
  "1.1,v11 7032 0-7f,17f,212a
   2.0,v20 7696 0-7f,17f,212a
   2.1,v21 7696 0-7f,17f,212a
   3.0,v30 9048 0-7f,17f,212a
   3.1,v31 10216 0-7f,17f,212a
   3.2,v32 10216 0-7f,17f,212a
   4.0,v40 10608 0-7f,17f,212a
   4.1,v41 11328 0-7f,17f,212a
   5.0,v50 11720 0-7f,17f,212a
   5.1,v51 12312 0-7f,17f,212a
   5.2,v52 13152 0-7f,17f,212a
   6.0,v60 13952 0-7f,17f,212a
   6.1,v61 14720 0-7f,17f,212a
   6.2,v62 14720 0-7f,17f,212a
   6.3,v63 14720 0-7f,17f,212a
   7.0,v70 16304 0-7f,17f,212a
   8.0,v80 16896 0-7f,17f,212a
   9.0,v90 17472 0-7f,17f,212a
   10.0,v100 17920 0-7f,17f,212a
   11.0,v110 18368 0-7f,17f,212a
   12.0,v120 18688 0-7f,17f,212a
   12.1,v121 18672 0-7f,17f,212a
   13.0,v130 19184 0-7f,17f,212a
   14.0,v140 19336 0-7f,17f,212a
   15.0,v150 19720 0-7f,17f,212a
   15.1,v151 19792 0-7f,17f,212a
   16.0,v160 20336 0-7f,17f,212a"

/-- Whether one of some runs holds a character. -/
def inRuns (runs : List (Unicode.Run Unit)) (c : Char) : Bool :=
  runs.any fun run => run.first ≤ c.toNat && c.toNat ≤ run.last

/-- The properties that a text lists. -/
def readProperties : List (List Char) → List NamedProperty
  | names :: size :: members :: rest =>
    let runs := if members = ['-'] then [] else
      (Text.splitOn ',' members).map (Unicode.Table.run ())
    { names := Text.splitOn ',' names
      size := size.foldl (fun n c => n * 10 + (c.toNat - 48)) 0
      members := CharSet.ofPred (inRuns runs) } :: readProperties rest
  | _ => []

/-- Properties that a character has or has not. -/
def binaryProperties : List NamedProperty :=
  readProperties (Unicode.Table.entries binaryText)

/-- The categories of characters. -/
def categoryProperties : List NamedProperty :=
  readProperties (Unicode.Table.entries categoryText)

/-- The scripts that characters belong to. -/
def scriptProperties : List NamedProperty :=
  readProperties (Unicode.Table.entries scriptText)

/-- The roles of characters in what a reader takes for one character. -/
def graphemeProperties : List NamedProperty :=
  readProperties (Unicode.Table.entries graphemeText)

/-- The roles of characters in words. -/
def wordProperties : List NamedProperty :=
  readProperties (Unicode.Table.entries wordText)

/-- The roles of characters in sentences. -/
def sentenceProperties : List NamedProperty :=
  readProperties (Unicode.Table.entries sentenceText)

/-- The versions of Unicode by which characters were known. -/
def ageProperties : List NamedProperty :=
  readProperties (Unicode.Table.entries ageText)

/-- The property with a plain name. -/
def findProperty (all : List NamedProperty) (name : List Char) : Option Property :=
  (all.find? (name ∈ ·.names)).map NamedProperty.toProperty

/-- A name without what does not matter in it. -/
def plainName (name : List Char) : List Char :=
  let keep (s : List Char) := (s.filter fun c =>
    c.toNat < 0x80 && !(c = ' ' || c = '_' || c = '-')).map Char.toLower
  match name with
  | a :: b :: rest =>
    if a.toLower = 'i' ∧ b.toLower = 's' then
      let plain := keep rest
      if plain = ['c'] then "isc".toList else plain
    else keep name
  | _ => keep name

/-- The property that a name alone stands for: one that a character has or has not, a category or a
script. -/
def property? (name : List Char) : Option Property :=
  let name := plainName name
  findProperty binaryProperties name <|> findProperty categoryProperties name <|>
    findProperty scriptProperties name

/-- The values of a property that has several. -/
def valuesOf (name : List Char) : List NamedProperty :=
  if name ∈ ["gc".toList, "generalcategory".toList] then categoryProperties
  else if name ∈ ["sc".toList, "script".toList, "scx".toList, "scriptextensions".toList] then
    scriptProperties
  else if name = "age".toList then ageProperties
  else if name ∈ ["gcb".toList, "graphemeclusterbreak".toList] then graphemeProperties
  else if name ∈ ["wb".toList, "wordbreak".toList] then wordProperties
  else if name ∈ ["sb".toList, "sentencebreak".toList] then sentenceProperties
  else []

/-- The property that the name of a property and one of its values stand for. -/
def valueProperty? (name value : List Char) : Option Property :=
  findProperty (valuesOf (plainName name)) (plainName value)

end Detour.Pattern
