/-
  The locales of the Common Locale Data Repository that the library knows.

  A row holds the names shared by some locale identifiers, each list of names joined by bars:
  the days from Monday, the months from January and the halves of the day.  Not every locale names
  the halves in every width.  A code leads to a row by its identifier, perhaps through a redirection
  to the likely or current identifier; `LocaleDatabase.cldr` is the database of these rows.
-/
import DatePattern.Locale.Database

namespace DatePattern.Cldr

open Text

/-- A list of names in each width: abbreviated, wide and narrow. -/
abbrev Lists := String × String × String

/-- The halves of the day: abbreviated, and wide and narrow where they are given. -/
abbrev Halves := String × Option String × Option String

/-- The names of some locales. -/
structure Row where
  identifiers : List String
  days : Lists
  /-- The short names of the days, where they are not the abbreviated ones. -/
  shortDays : Option String
  months : Lists
  halves : Halves

/-- The names of the fallback locale. -/
def englishRow : Row :=
  ⟨["en", "en_US", "en_US_POSIX"],
      ("Mon|Tue|Wed|Thu|Fri|Sat|Sun",
       "Monday|Tuesday|Wednesday|Thursday|Friday|Saturday|Sunday",
       "M|T|W|T|F|S|S"),
      some "Mo|Tu|We|Th|Fr|Sa|Su",
      ("Jan|Feb|Mar|Apr|May|Jun|Jul|Aug|Sep|Oct|Nov|Dec",
       "January|February|March|April|May|June|"
         ++ "July|August|September|October|November|December",
       "J|F|M|A|M|J|J|A|S|O|N|D"),
      ("AM|PM", some "AM|PM", some "a|p")⟩

/-- The rows of names. -/
def rows : List Row :=
  [⟨["am_ET"],
      ("ሰኞ|ማክሰ|ረቡዕ|ሐሙስ|ዓርብ|ቅዳሜ|እሑድ",
       "ሰኞ|ማክሰኞ|ረቡዕ|ሐሙስ|ዓርብ|ቅዳሜ|እሑድ",
       "ሰ|ማ|ረ|ሐ|ዓ|ቅ|እ"),
      some "ሰ|ማ|ረ|ሐ|ዓ|ቅ|እ",
      ("ጃን|ፌብ|ማርች|ኤፕሪ|ሜይ|ጁን|ጁላይ|ኦገስ|ሴፕቴ|ኦክቶ|ኖቬም|ዲሴም",
       "ጃንዋሪ|ፌብሩዋሪ|ማርች|ኤፕሪል|ሜይ|ጁን|ጁላይ|ኦገስት|ሴፕቴምበር|ኦክቶበር|ኖቬምበር|ዲሴምበር",
       "ጃ|ፌ|ማ|ኤ|ሜ|ጁ|ጁ|ኦ|ሴ|ኦ|ኖ|ዲ"),
      ("ጥዋት|ከሰዓት", none, some "ጠ|ከ")⟩,
   ⟨["ar_EG"],
      ("الاثنين|الثلاثاء|الأربعاء|الخميس|الجمعة|السبت|الأحد",
       "الاثنين|الثلاثاء|الأربعاء|الخميس|الجمعة|السبت|الأحد",
       "ن|ث|ر|خ|ج|س|ح"),
      some "إثنين|ثلاثاء|أربعاء|خميس|جمعة|سبت|أحد",
      ("يناير|فبراير|مارس|أبريل|مايو|يونيو|يوليو|أغسطس|سبتمبر|أكتوبر|نوفمبر|ديسمبر",
       "يناير|فبراير|مارس|أبريل|مايو|يونيو|يوليو|أغسطس|سبتمبر|أكتوبر|نوفمبر|ديسمبر",
       "ي|ف|م|أ|و|ن|ل|غ|س|ك|ب|د"),
      ("ص|م", none, none)⟩,
   ⟨["bn_BD"],
      ("সোম|মঙ্গল|বুধ|বৃহস্পতি|শুক্র|শনি|রবি",
       "সোমবার|মঙ্গলবার|বুধবার|বৃহস্পতিবার|শুক্রবার|শনিবার|রবিবার",
       "সো|ম|বু|বৃ|শু|শ|র"),
      some "সোঃ|মঃ|বুঃ|বৃঃ|শুঃ|শনি|রঃ",
      ("জানু|ফেব|মার্চ|এপ্রি|মে|জুন|জুল|আগ|সেপ|অক্টো|নভে|ডিসে",
       "জানুয়ারী|ফেব্রুয়ারী|মার্চ|এপ্রিল|মে|জুন|"
         ++ "জুলাই|আগস্ট|সেপ্টেম্বর|অক্টোবর|নভেম্বর|ডিসেম্বর",
       "জা|ফে|মা|এ|মে|জুন|জু|আ|সে|অ|ন|ডি"),
      ("AM|PM", none, none)⟩,
   ⟨["ca_ES_VALENCIA"],
      ("dl.|dt.|dc.|dj.|dv.|ds.|dg.",
       "dilluns|dimarts|dimecres|dijous|divendres|dissabte|diumenge",
       "dl.|dt.|dc.|dj.|dv.|ds.|dg."),
      none,
      ("de gen.|de febr.|de març|d’abr.|de maig|de juny|"
         ++ "de jul.|d’ag.|de set.|d’oct.|de nov.|de des.",
       "de gener|de febrer|de març|d’abril|de maig|de juny|"
         ++ "de juliol|d’agost|de setembre|d’octubre|de novembre|de desembre",
       "GN|FB|MÇ|AB|MG|JN|JL|AG|ST|OC|NV|DS"),
      ("a.\u202fm.|p.\u202fm.", some "a.\u00a0m.|p.\u00a0m.", none)⟩,
   ⟨["cs_CZ"],
      ("po|út|st|čt|pá|so|ne",
       "pondělí|úterý|středa|čtvrtek|pátek|sobota|neděle",
       "P|Ú|S|Č|P|S|N"),
      none,
      ("led|úno|bře|dub|kvě|čvn|čvc|srp|zář|říj|lis|pro",
       "ledna|února|března|dubna|května|června|července|srpna|září|října|listopadu|prosince",
       "1|2|3|4|5|6|7|8|9|10|11|12"),
      ("dop.|odp.", none, none)⟩,
   ⟨["de", "de_DE"],
      ("Mo.|Di.|Mi.|Do.|Fr.|Sa.|So.",
       "Montag|Dienstag|Mittwoch|Donnerstag|Freitag|Samstag|Sonntag",
       "M|D|M|D|F|S|S"),
      none,
      ("Jan.|Feb.|März|Apr.|Mai|Juni|Juli|Aug.|Sept.|Okt.|Nov.|Dez.",
       "Januar|Februar|März|April|Mai|Juni|Juli|August|September|Oktober|November|Dezember",
       "J|F|M|A|M|J|J|A|S|O|N|D"),
      ("AM|PM", none, none)⟩,
   ⟨["de_AT"],
      ("Mo.|Di.|Mi.|Do.|Fr.|Sa.|So.",
       "Montag|Dienstag|Mittwoch|Donnerstag|Freitag|Samstag|Sonntag",
       "M|D|M|D|F|S|S"),
      none,
      ("Jän.|Feb.|März|Apr.|Mai|Juni|Juli|Aug.|Sep.|Okt.|Nov.|Dez.",
       "Jänner|Februar|März|April|Mai|Juni|Juli|August|September|Oktober|November|Dezember",
       "J|F|M|A|M|J|J|A|S|O|N|D"),
      ("AM|PM", none, none)⟩,
   ⟨["el_GR"],
      ("Δευ|Τρί|Τετ|Πέμ|Παρ|Σάβ|Κυρ",
       "Δευτέρα|Τρίτη|Τετάρτη|Πέμπτη|Παρασκευή|Σάββατο|Κυριακή",
       "Δ|Τ|Τ|Π|Π|Σ|Κ"),
      some "Δε|Τρ|Τε|Πέ|Πα|Σά|Κυ",
      ("Ιαν|Φεβ|Μαρ|Απρ|Μαΐ|Ιουν|Ιουλ|Αυγ|Σεπ|Οκτ|Νοε|Δεκ",
       "Ιανουαρίου|Φεβρουαρίου|Μαρτίου|Απριλίου|Μαΐου|Ιουνίου|"
         ++ "Ιουλίου|Αυγούστου|Σεπτεμβρίου|Οκτωβρίου|Νοεμβρίου|Δεκεμβρίου",
       "Ι|Φ|Μ|Α|Μ|Ι|Ι|Α|Σ|Ο|Ν|Δ"),
      ("π.μ.|μ.μ.", none, some "πμ|μμ")⟩,
   englishRow,
   ⟨["en_150", "en_GB"],
      ("Mon|Tue|Wed|Thu|Fri|Sat|Sun",
       "Monday|Tuesday|Wednesday|Thursday|Friday|Saturday|Sunday",
       "M|T|W|T|F|S|S"),
      some "Mo|Tu|We|Th|Fr|Sa|Su",
      ("Jan|Feb|Mar|Apr|May|Jun|Jul|Aug|Sept|Oct|Nov|Dec",
       "January|February|March|April|May|June|"
         ++ "July|August|September|October|November|December",
       "J|F|M|A|M|J|J|A|S|O|N|D"),
      ("am|pm", some "am|pm", some "a|p")⟩,
   ⟨["en_AU"],
      ("Mon|Tue|Wed|Thu|Fri|Sat|Sun",
       "Monday|Tuesday|Wednesday|Thursday|Friday|Saturday|Sunday",
       "M.|Tu.|W.|Th.|F.|Sa.|Su."),
      some "Mo|Tu|We|Th|Fr|Sa|Su",
      ("Jan|Feb|Mar|Apr|May|June|July|Aug|Sept|Oct|Nov|Dec",
       "January|February|March|April|May|June|"
         ++ "July|August|September|October|November|December",
       "J|F|M|A|M|J|J|A|S|O|N|D"),
      ("am|pm", some "am|pm", some "am|pm")⟩,
   ⟨["es_ES"],
      ("lun|mar|mié|jue|vie|sáb|dom",
       "lunes|martes|miércoles|jueves|viernes|sábado|domingo",
       "L|M|X|J|V|S|D"),
      some "LU|MA|MI|JU|VI|SA|DO",
      ("ene|feb|mar|abr|may|jun|jul|ago|sept|oct|nov|dic",
       "enero|febrero|marzo|abril|mayo|junio|"
         ++ "julio|agosto|septiembre|octubre|noviembre|diciembre",
       "E|F|M|A|M|J|J|A|S|O|N|D"),
      ("a.\u202fm.|p.\u202fm.", some "a.\u00a0m.|p.\u00a0m.", none)⟩,
   ⟨["fa_IR"],
      ("دوشنبه|سه\u200cشنبه|چهارشنبه|پنجشنبه|جمعه|شنبه|یکشنبه",
       "دوشنبه|سه\u200cشنبه|چهارشنبه|پنجشنبه|جمعه|شنبه|یکشنبه",
       "د|س|چ|پ|ج|ش|ی"),
      some "۲ش|۳ش|۴ش|۵ش|ج|ش|۱ش",
      ("ژانویه|فوریه|مارس|آوریل|مه|ژوئن|ژوئیه|اوت|سپتامبر|اکتبر|نوامبر|دسامبر",
       "ژانویهٔ|فوریهٔ|مارس|آوریل|مهٔ|ژوئن|ژوئیهٔ|اوت|سپتامبر|اکتبر|نوامبر|دسامبر",
       "ژ|ف|م|آ|م|ژ|ژ|ا|س|ا|ن|د"),
      ("ق.ظ.|ب.ظ.", some "قبل\u200cازظهر|بعدازظهر", some "ق|ب")⟩,
   ⟨["fi_FI"],
      ("ma|ti|ke|to|pe|la|su",
       "maanantaina|tiistaina|keskiviikkona|torstaina|perjantaina|lauantaina|sunnuntai",
       "M|T|K|T|P|L|S"),
      none,
      ("tammi|helmi|maalis|huhti|touko|kesä|heinä|elo|syys|loka|marras|joulu",
       "tammikuuta|helmikuuta|maaliskuuta|huhtikuuta|toukokuuta|kesäkuuta|"
         ++ "heinäkuuta|elokuuta|syyskuuta|lokakuuta|marraskuuta|joulukuuta",
       "T|H|M|H|T|K|H|E|S|L|M|J"),
      ("ap.|ip.", none, none)⟩,
   ⟨["fil_PH"],
      ("Lun|Mar|Miy|Huw|Biy|Sab|Lin",
       "Lunes|Martes|Miyerkules|Huwebes|Biyernes|Sabado|Linggo",
       "Lun|Mar|Miy|Huw|Biy|Sab|Lin"),
      none,
      ("Ene|Peb|Mar|Abr|May|Hun|Hul|Ago|Set|Okt|Nob|Dis",
       "Enero|Pebrero|Marso|Abril|Mayo|Hunyo|"
         ++ "Hulyo|Agosto|Setyembre|Oktubre|Nobyembre|Disyembre",
       "Ene|Peb|Mar|Abr|May|Hun|Hul|Ago|Set|Okt|Nob|Dis"),
      ("AM|PM", none, some "am|pm")⟩,
   ⟨["fr", "fr_FR"],
      ("lun.|mar.|mer.|jeu.|ven.|sam.|dim.",
       "lundi|mardi|mercredi|jeudi|vendredi|samedi|dimanche",
       "L|M|M|J|V|S|D"),
      some "lu|ma|me|je|ve|sa|di",
      ("janv.|févr.|mars|avr.|mai|juin|juil.|août|sept.|oct.|nov.|déc.",
       "janvier|février|mars|avril|mai|juin|juillet|août|septembre|octobre|novembre|décembre",
       "J|F|M|A|M|J|J|A|S|O|N|D"),
      ("AM|PM", none, none)⟩,
   ⟨["fr_CA"],
      ("lun.|mar.|mer.|jeu.|ven.|sam.|dim.",
       "lundi|mardi|mercredi|jeudi|vendredi|samedi|dimanche",
       "L|M|M|J|V|S|D"),
      some "lu|ma|me|je|ve|sa|di",
      ("janv.|févr.|mars|avr.|mai|juin|juill.|août|sept.|oct.|nov.|déc.",
       "janvier|février|mars|avril|mai|juin|juillet|août|septembre|octobre|novembre|décembre",
       "J|F|M|A|M|J|J|A|S|O|N|D"),
      ("a.m.|p.m.", none, some "a|p")⟩,
   ⟨["ha_NG"],
      ("Lit|Tal|Lar|Alh|Jum|Asa|Lah",
       "Litinin|Talata|Laraba|Alhamis|Jummaʼa|Asabar|Lahadi",
       "L|T|L|A|J|A|L"),
      some "Li|Ta|Lr|Al|Ju|As|Lh",
      ("Jan|Fab|Mar|Afi|May|Yun|Yul|Agu|Sat|Okt|Nuw|Dis",
       "Janairu|Faburairu|Maris|Afirilu|Mayu|Yuni|Yuli|Agusta|Satumba|Oktoba|Nuwamba|Disamba",
       "J|F|M|A|M|Y|Y|A|S|O|N|D"),
      ("SF|YM", some "Safiya|Yamma", none)⟩,
   ⟨["he_IL"],
      ("יום ב׳|יום ג׳|יום ד׳|יום ה׳|יום ו׳|שבת|יום א׳",
       "יום שני|יום שלישי|יום רביעי|יום חמישי|יום שישי|יום שבת|יום ראשון",
       "ב׳|ג׳|ד׳|ה׳|ו׳|ש׳|א׳"),
      some "ב׳|ג׳|ד׳|ה׳|ו׳|ש׳|א׳",
      ("ינו׳|פבר׳|מרץ|אפר׳|מאי|יוני|יולי|אוג׳|ספט׳|אוק׳|נוב׳|דצמ׳",
       "ינואר|פברואר|מרץ|אפריל|מאי|יוני|יולי|אוגוסט|ספטמבר|אוקטובר|נובמבר|דצמבר",
       "1|2|3|4|5|6|7|8|9|10|11|12"),
      ("AM|PM", none, none)⟩,
   ⟨["hi_IN"],
      ("सोम|मंगल|बुध|गुरु|शुक्र|शनि|रवि",
       "सोमवार|मंगलवार|बुधवार|गुरुवार|शुक्रवार|शनिवार|रविवार",
       "सो|मं|बु|गु|शु|श|र"),
      some "सो|मं|बु|गु|शु|श|र",
      ("जन॰|फ़र॰|मार्च|अप्रैल|मई|जून|जुल॰|अग॰|सित॰|अक्टू॰|नव॰|दिस॰",
       "जनवरी|फ़रवरी|मार्च|अप्रैल|मई|जून|जुलाई|अगस्त|सितंबर|अक्टूबर|नवंबर|दिसंबर",
       "ज|फ़|मा|अ|म|जू|जु|अ|सि|अ|न|दि"),
      ("am|pm", none, none)⟩,
   ⟨["hu_HU"],
      ("H|K|Sze|Cs|P|Szo|V",
       "hétfő|kedd|szerda|csütörtök|péntek|szombat|vasárnap",
       "H|K|Sz|Cs|P|Sz|V"),
      none,
      ("jan.|febr.|márc.|ápr.|máj.|jún.|júl.|aug.|szept.|okt.|nov.|dec.",
       "január|február|március|április|május|június|"
         ++ "július|augusztus|szeptember|október|november|december",
       "J|F|M|Á|M|J|J|A|Sz|O|N|D"),
      ("de.|du.", none, none)⟩,
   ⟨["id_ID"],
      ("Sen|Sel|Rab|Kam|Jum|Sab|Min",
       "Senin|Selasa|Rabu|Kamis|Jumat|Sabtu|Minggu",
       "S|S|R|K|J|S|M"),
      none,
      ("Jan|Feb|Mar|Apr|Mei|Jun|Jul|Agu|Sep|Okt|Nov|Des",
       "Januari|Februari|Maret|April|Mei|Juni|"
         ++ "Juli|Agustus|September|Oktober|November|Desember",
       "J|F|M|A|M|J|J|A|S|O|N|D"),
      ("AM|PM", none, none)⟩,
   ⟨["it_IT"],
      ("lun|mar|mer|gio|ven|sab|dom",
       "lunedì|martedì|mercoledì|giovedì|venerdì|sabato|domenica",
       "L|M|M|G|V|S|D"),
      none,
      ("gen|feb|mar|apr|mag|giu|lug|ago|set|ott|nov|dic",
       "gennaio|febbraio|marzo|aprile|maggio|giugno|"
         ++ "luglio|agosto|settembre|ottobre|novembre|dicembre",
       "G|F|M|A|M|G|L|A|S|O|N|D"),
      ("AM|PM", none, some "m.|p.")⟩,
   ⟨["ja", "ja_JP"],
      ("月|火|水|木|金|土|日",
       "月曜日|火曜日|水曜日|木曜日|金曜日|土曜日|日曜日",
       "月|火|水|木|金|土|日"),
      none,
      ("1月|2月|3月|4月|5月|6月|7月|8月|9月|10月|11月|12月",
       "1月|2月|3月|4月|5月|6月|7月|8月|9月|10月|11月|12月",
       "1|2|3|4|5|6|7|8|9|10|11|12"),
      ("午前|午後", none, none)⟩,
   ⟨["ko_KR"],
      ("월|화|수|목|금|토|일",
       "월요일|화요일|수요일|목요일|금요일|토요일|일요일",
       "월|화|수|목|금|토|일"),
      none,
      ("1월|2월|3월|4월|5월|6월|7월|8월|9월|10월|11월|12월",
       "1월|2월|3월|4월|5월|6월|7월|8월|9월|10월|11월|12월",
       "1월|2월|3월|4월|5월|6월|7월|8월|9월|10월|11월|12월"),
      ("AM|PM", some "오전|오후", none)⟩,
   ⟨["ku"],
      ("dşm|sşm|çşm|pşm|înî|şem|yşm",
       "duşem|sêşem|çarşem|pêncşem|înî|şemî|yekşem",
       "D|S|Ç|P|Î|Ş|Y"),
      some "dş|sş|çş|pş|în|şm|yş",
      ("rbn|sbt|adr|nsn|gln|hzr|trm|tbx|îln|cot|mjd|brf",
       "rêbendan|sibat|adar|nîsan|gulan|hezîran|tîrmeh|tebax|îlon|cotmeh|mijdar|berfanbar",
       "R|S|A|N|G|H|T|T|Î|C|M|B"),
      ("BN|PN", none, some "bn|pn")⟩,
   ⟨["lv_LV"],
      ("pirmd.|otrd.|trešd.|ceturtd.|piektd.|sestd.|svētd.",
       "pirmdiena|otrdiena|trešdiena|ceturtdiena|piektdiena|sestdiena|svētdiena",
       "P|O|T|C|P|S|S"),
      some "Pr|Ot|Tr|Ce|Pk|Se|Sv",
      ("janv.|febr.|marts|apr.|maijs|jūn.|jūl.|aug.|sept.|okt.|nov.|dec.",
       "janvāris|februāris|marts|aprīlis|maijs|jūnijs|"
         ++ "jūlijs|augusts|septembris|oktobris|novembris|decembris",
       "J|F|M|A|M|J|J|A|S|O|N|D"),
      ("priekšp.|pēcp.", some "priekšpusdienā|pēcpusdienā", none)⟩,
   ⟨["ml_IN"],
      ("തിങ്കൾ|ചൊവ്വ|ബുധൻ|വ്യാഴം|വെള്ളി|ശനി|ഞായർ",
       "തിങ്കളാഴ്\u200cച|ചൊവ്വാഴ്ച|ബുധനാഴ്\u200cച|വ്യാഴാഴ്\u200cച|വെള്ളിയാഴ്\u200cച|ശനിയാഴ്\u200cച|ഞായറാഴ്\u200cച",
       "തി|ചൊ|ബു|വ്യാ|വെ|ശ|ഞ"),
      some "തി|ചൊ|ബു|വ്യാ|വെ|ശ|ഞാ",
      ("ജനു|ഫെബ്രു|മാർ|ഏപ്രി|മേയ്|ജൂൺ|ജൂലൈ|ഓഗ|സെപ്റ്റം|ഒക്ടോ|നവം|ഡിസം",
       "ജനുവരി|ഫെബ്രുവരി|മാർച്ച്|ഏപ്രിൽ|മേയ്|ജൂൺ|"
         ++ "ജൂലൈ|ഓഗസ്റ്റ്|സെപ്റ്റംബർ|ഒക്\u200cടോബർ|നവംബർ|ഡിസംബർ",
       "ജ|ഫെ|മാ|ഏ|മെ|ജൂൺ|ജൂ|ഓ|സെ|ഒ|ന|ഡി"),
      ("AM|PM", none, none)⟩,
   ⟨["my_MM"],
      ("တနင်္လာ|အင်္ဂါ|ဗုဒ္ဓဟူး|ကြာသပတေး|သောကြာ|စနေ|တနင်္ဂနွေ",
       "တနင်္လာ|အင်္ဂါ|ဗုဒ္ဓဟူး|ကြာသပတေး|သောကြာ|စနေ|တနင်္ဂနွေ",
       "တ|အ|ဗ|က|သ|စ|တ"),
      some "လာ|ဂါ|ဟူး|တေး|ကြာ|နေ|နွေ",
      ("ဇန်|ဖေ|မတ်|ဧ|မေ|ဇွန်|ဇူ|ဩ|စက်|အောက်|နို|ဒီ",
       "ဇန်နဝါရီ|ဖေဖော်ဝါရီ|မတ်|ဧပြီ|မေ|ဇွန်|"
         ++ "ဇူလိုင်|ဩဂုတ်|စက်တင်ဘာ|အောက်တိုဘာ|နိုဝင်ဘာ|ဒီဇင်ဘာ",
       "ဇ|ဖ|မ|ဧ|မ|ဇ|ဇ|ဩ|စ|အ|န|ဒ"),
      ("နံနက်|ညနေ", none, none)⟩,
   ⟨["nb_NO", "no"],
      ("man.|tir.|ons.|tor.|fre.|lør.|søn.",
       "mandag|tirsdag|onsdag|torsdag|fredag|lørdag|søndag",
       "M|T|O|T|F|L|S"),
      some "ma.|ti.|on.|to.|fr.|lø.|sø.",
      ("jan.|feb.|mars|apr.|mai|juni|juli|aug.|sep.|okt.|nov.|des.",
       "januar|februar|mars|april|mai|juni|juli|august|september|oktober|november|desember",
       "J|F|M|A|M|J|J|A|S|O|N|D"),
      ("a.m.|p.m.", none, some "a|p")⟩,
   ⟨["pl_PL"],
      ("pon.|wt.|śr.|czw.|pt.|sob.|niedz.",
       "poniedziałek|wtorek|środa|czwartek|piątek|sobota|niedziela",
       "p|w|ś|c|p|s|n"),
      some "pon|wto|śro|czw|pią|sob|nie",
      ("sty|lut|mar|kwi|maj|cze|lip|sie|wrz|paź|lis|gru",
       "stycznia|lutego|marca|kwietnia|maja|czerwca|"
         ++ "lipca|sierpnia|września|października|listopada|grudnia",
       "s|l|m|k|m|c|l|s|w|p|l|g"),
      ("AM|PM", none, some "a|p")⟩,
   ⟨["pt_BR"],
      ("seg.|ter.|qua.|qui.|sex.|sáb.|dom.",
       "segunda-feira|terça-feira|quarta-feira|quinta-feira|sexta-feira|sábado|domingo",
       "S|T|Q|Q|S|S|D"),
      none,
      ("jan.|fev.|mar.|abr.|mai.|jun.|jul.|ago.|set.|out.|nov.|dez.",
       "janeiro|fevereiro|março|abril|maio|junho|"
         ++ "julho|agosto|setembro|outubro|novembro|dezembro",
       "J|F|M|A|M|J|J|A|S|O|N|D"),
      ("AM|PM", none, none)⟩,
   ⟨["pt_PT"],
      ("segunda|terça|quarta|quinta|sexta|sábado|domingo",
       "segunda-feira|terça-feira|quarta-feira|quinta-feira|sexta-feira|sábado|domingo",
       "S|T|Q|Q|S|S|D"),
      some "seg.|ter.|qua.|qui.|sex.|sáb.|dom.",
      ("jan.|fev.|mar.|abr.|mai.|jun.|jul.|ago.|set.|out.|nov.|dez.",
       "janeiro|fevereiro|março|abril|maio|junho|"
         ++ "julho|agosto|setembro|outubro|novembro|dezembro",
       "J|F|M|A|M|J|J|A|S|O|N|D"),
      ("a.m.|p.m.", some "da manhã|da tarde", none)⟩,
   ⟨["ro_RO"],
      ("lun.|mar.|mie.|joi|vin.|sâm.|dum.",
       "luni|marți|miercuri|joi|vineri|sâmbătă|duminică",
       "L|M|M|J|V|S|D"),
      some "lu.|ma.|mi.|joi|vi.|sâ.|du.",
      ("ian.|feb.|mar.|apr.|mai|iun.|iul.|aug.|sept.|oct.|nov.|dec.",
       "ianuarie|februarie|martie|aprilie|mai|iunie|"
         ++ "iulie|august|septembrie|octombrie|noiembrie|decembrie",
       "I|F|M|A|M|I|I|A|S|O|N|D"),
      ("a.m.|p.m.", none, none)⟩,
   ⟨["ru_RU"],
      ("пн|вт|ср|чт|пт|сб|вс",
       "понедельник|вторник|среда|четверг|пятница|суббота|воскресенье",
       "П|В|С|Ч|П|С|В"),
      none,
      ("янв.|февр.|мар.|апр.|мая|июн.|июл.|авг.|сент.|окт.|нояб.|дек.",
       "января|февраля|марта|апреля|мая|июня|июля|августа|сентября|октября|ноября|декабря",
       "Я|Ф|М|А|М|И|И|А|С|О|Н|Д"),
      ("AM|PM", none, none)⟩,
   ⟨["sr", "sr_Cyrl_RS"],
      ("пон|уто|сре|чет|пет|суб|нед",
       "понедељак|уторак|среда|четвртак|петак|субота|недеља",
       "п|у|с|ч|п|с|н"),
      some "по|ут|ср|че|пе|су|не",
      ("јан|феб|мар|апр|мај|јун|јул|авг|сеп|окт|нов|дец",
       "јануар|фебруар|март|април|мај|јун|јул|август|септембар|октобар|новембар|децембар",
       "ј|ф|м|а|м|ј|ј|а|с|о|н|д"),
      ("AM|PM", none, none)⟩,
   ⟨["sr_Latn_RS"],
      ("pon|uto|sre|čet|pet|sub|ned",
       "ponedeljak|utorak|sreda|četvrtak|petak|subota|nedelja",
       "p|u|s|č|p|s|n"),
      some "po|ut|sr|če|pe|su|ne",
      ("jan|feb|mar|apr|maj|jun|jul|avg|sep|okt|nov|dec",
       "januar|februar|mart|april|maj|jun|jul|avgust|septembar|oktobar|novembar|decembar",
       "j|f|m|a|m|j|j|a|s|o|n|d"),
      ("AM|PM", none, none)⟩,
   ⟨["sv"],
      ("mån|tis|ons|tors|fre|lör|sön",
       "måndag|tisdag|onsdag|torsdag|fredag|lördag|söndag",
       "M|T|O|T|F|L|S"),
      some "må|ti|on|to|fr|lö|sö",
      ("jan.|feb.|mars|apr.|maj|juni|juli|aug.|sep.|okt.|nov.|dec.",
       "januari|februari|mars|april|maj|juni|"
         ++ "juli|augusti|september|oktober|november|december",
       "J|F|M|A|M|J|J|A|S|O|N|D"),
      ("fm|em", none, none)⟩,
   ⟨["ta_IN"],
      ("திங்.|செவ்.|புத.|வியா.|வெள்.|சனி|ஞாயி.",
       "திங்கள்|செவ்வாய்|புதன்|வியாழன்|வெள்ளி|சனி|ஞாயிறு",
       "தி|செ|பு|வி|வெ|ச|ஞா"),
      some "தி|செ|பு|வி|வெ|ச|ஞா",
      ("ஜன.|பிப்.|மார்.|ஏப்.|மே|ஜூன்|ஜூலை|ஆக.|செப்.|அக்.|நவ.|டிச.",
       "ஜனவரி|பிப்ரவரி|மார்ச்|ஏப்ரல்|மே|ஜூன்|"
         ++ "ஜூலை|ஆகஸ்ட்|செப்டம்பர்|அக்டோபர்|நவம்பர்|டிசம்பர்",
       "ஜ|பி|மா|ஏ|மே|ஜூ|ஜூ|ஆ|செ|அ|ந|டி"),
      ("AM|PM", none, none)⟩,
   ⟨["th_TH"],
      ("จ.|อ.|พ.|พฤ.|ศ.|ส.|อา.",
       "วันจันทร์|วันอังคาร|วันพุธ|วันพฤหัสบดี|วันศุกร์|วันเสาร์|วันอาทิตย์",
       "จ|อ|พ|พฤ|ศ|ส|อา"),
      none,
      ("ม.ค.|ก.พ.|มี.ค.|เม.ย.|พ.ค.|มิ.ย.|ก.ค.|ส.ค.|ก.ย.|ต.ค.|พ.ย.|ธ.ค.",
       "มกราคม|กุมภาพันธ์|มีนาคม|เมษายน|พฤษภาคม|มิถุนายน|"
         ++ "กรกฎาคม|สิงหาคม|กันยายน|ตุลาคม|พฤศจิกายน|ธันวาคม",
       "ม.ค.|ก.พ.|มี.ค.|เม.ย.|พ.ค.|มิ.ย.|ก.ค.|ส.ค.|ก.ย.|ต.ค.|พ.ย.|ธ.ค."),
      ("AM|PM", some "ก่อนเที่ยง|หลังเที่ยง", some "a|p")⟩,
   ⟨["tr_TR"],
      ("Pzt|Sal|Çar|Per|Cum|Cmt|Paz",
       "Pazartesi|Salı|Çarşamba|Perşembe|Cuma|Cumartesi|Pazar",
       "P|S|Ç|P|C|C|P"),
      some "Pt|Sa|Ça|Pe|Cu|Ct|Pa",
      ("Oca|Şub|Mar|Nis|May|Haz|Tem|Ağu|Eyl|Eki|Kas|Ara",
       "Ocak|Şubat|Mart|Nisan|Mayıs|Haziran|Temmuz|Ağustos|Eylül|Ekim|Kasım|Aralık",
       "O|Ş|M|N|M|H|T|A|E|E|K|A"),
      ("ÖÖ|ÖS", none, some "öö|ös")⟩,
   ⟨["vi_VN"],
      ("Th 2|Th 3|Th 4|Th 5|Th 6|Th 7|CN",
       "Thứ Hai|Thứ Ba|Thứ Tư|Thứ Năm|Thứ Sáu|Thứ Bảy|Chủ Nhật",
       "T2|T3|T4|T5|T6|T7|CN"),
      some "T2|T3|T4|T5|T6|T7|CN",
      ("thg 1|thg 2|thg 3|thg 4|thg 5|thg 6|thg 7|thg 8|thg 9|thg 10|thg 11|thg 12",
       "tháng 1|tháng 2|tháng 3|tháng 4|tháng 5|tháng 6|"
         ++ "tháng 7|tháng 8|tháng 9|tháng 10|tháng 11|tháng 12",
       "1|2|3|4|5|6|7|8|9|10|11|12"),
      ("SA|CH", none, some "s|c")⟩,
   ⟨["yue_Hans_CN"],
      ("周一|周二|周三|周四|周五|周六|周日",
       "星期一|星期二|星期三|星期四|星期五|星期六|星期日",
       "一|二|三|四|五|六|日"),
      some "一|二|三|四|五|六|日",
      ("1月|2月|3月|4月|5月|6月|7月|8月|9月|10月|11月|12月",
       "一月|二月|三月|四月|五月|六月|七月|八月|九月|十月|十一月|十二月",
       "1|2|3|4|5|6|7|8|9|10|11|12"),
      ("上午|下午", some "上午|下午", some "上午|下午")⟩,
   ⟨["zh", "zh_Hans_CN"],
      ("周一|周二|周三|周四|周五|周六|周日",
       "星期一|星期二|星期三|星期四|星期五|星期六|星期日",
       "一|二|三|四|五|六|日"),
      none,
      ("1月|2月|3月|4月|5月|6月|7月|8月|9月|10月|11月|12月",
       "一月|二月|三月|四月|五月|六月|七月|八月|九月|十月|十一月|十二月",
       "1|2|3|4|5|6|7|8|9|10|11|12"),
      ("上午|下午", none, none)⟩,
   ⟨["zh_Hant", "zh_Hant_TW"],
      ("週一|週二|週三|週四|週五|週六|週日",
       "星期一|星期二|星期三|星期四|星期五|星期六|星期日",
       "一|二|三|四|五|六|日"),
      some "一|二|三|四|五|六|日",
      ("1月|2月|3月|4月|5月|6月|7月|8月|9月|10月|11月|12月",
       "1月|2月|3月|4月|5月|6月|7月|8月|9月|10月|11月|12月",
       "1|2|3|4|5|6|7|8|9|10|11|12"),
      ("上午|下午", none, none)⟩]

/-- Identifiers that stand for another one. -/
def redirections : List (String × String) :=
  [("de_1996", "de"), ("en_ZZ", "en_US"), ("in", "id_ID"), ("in_ID", "id_ID"), ("iw", "he_IL"),
   ("iw_IL", "he_IL"), ("mo", "ro_RO"), ("sr_RS", "sr_Cyrl_RS"), ("tl_PH", "fil_PH"),
   ("und", "en_US"), ("und_DE", "de_DE"), ("yue_CN", "yue_Hans_CN"), ("zh_CN", "zh_Hans_CN"),
   ("zh_TW", "zh_Hant_TW"), ("zh_Zzzz_TW", "zh_Hant_TW")]

/-- The names in a list joined by bars. -/
def split (joined : String) : List Text := fields '|' joined.toList

/-- The list of names for a width. -/
def forWidth (lists : Lists) : Width → List Text
  | .abbreviated => split lists.1
  | .wide => split lists.2.1
  | .narrow => split lists.2.2

/-- The list of halves of the day for a width. -/
def halvesFor? (halves : Halves) : Width → Option (List Text)
  | .abbreviated => some (split halves.1)
  | .wide => halves.2.1.map split
  | .narrow => halves.2.2.map split

/-- The list of days for a width. -/
def Row.daysFor (r : Row) : DayWidth → List Text
  | .common w => forWidth r.days w
  | .short => split (r.shortDays.getD r.days.1)

/-- The name of a half of the day in a list of two. -/
def periodName (names : List Text) : DayPeriod → Text
  | .am => names.getD 0 []
  | .pm => names.getD 1 []

/-- The names of a row. -/
def Row.names (r : Row) : CalendarNames where
  weekday w d := (r.daysFor w).getD d.val []
  month w m := (forWidth r.months w).getD m.val []
  period w p := (halvesFor? r.halves w).map fun names => periodName names p

/-- The identifier that another one stands for, or itself. -/
def redirect (identifier : Text) : Text :=
  match redirections.find? fun r => r.1.toList == identifier with
  | some r => r.2.toList
  | none => identifier

/-- The locale with a given identifier. -/
def locale? (identifier : Text) : Option Locale :=
  (rows.find? fun r => r.identifiers.any fun s => s.toList == identifier).map fun r =>
    { identifier, names := r.names }

/-- The locale of an identifier.  A modifier chooses no other names and stays in the identifier, but
nothing is redirected behind it. -/
def resolve? (parts : LocaleIdentifier) : Option Locale :=
  match locale? { parts with modifier := none }.written with
  | some l => some { l with identifier := parts.written }
  | none => locale? (redirect parts.written)

/-- The locale that a code names. -/
def locate (code : Text) : Except LocaleFault Locale :=
  match LocaleIdentifier.read code with
  | .error reason => .error (.malformed reason)
  | .ok parts =>
    match resolve? parts with
    | some l => .ok l
    | none => .error (.unknown parts.written)

/-- The fallback locale. -/
def english : Locale := { identifier := LocaleCode.fallback, names := englishRow.names }

end DatePattern.Cldr

namespace DatePattern

/-- The database of the rows above. -/
def LocaleDatabase.cldr : LocaleDatabase where
  locate := Cldr.locate
  english := Cldr.english
  locate_fallback := by rfl

end DatePattern
