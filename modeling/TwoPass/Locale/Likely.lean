import TwoPass.Locale.Tag

/-!
# Likely parts of language tags

A tag that leaves out its script or its region is most often meant for one of them, and one
that leaves out its language for the language that most people write in its region and in its
script.  Only the languages near to English and German have their scripts here.
-/

namespace TwoPass

namespace Locale

/-- The Latin script. -/
def latin : String := "latn"

/-- The languages that are written in another script than the Latin one. -/
def languageScripts : List (String × String) :=
  [ ("bn", "beng"), ("chr", "cher"), ("ka", "geor"), ("km", "khmr"), ("kn", "knda"),
    ("lo", "laoo"), ("ml", "mlym"), ("my", "mymr"), ("ne", "deva"), ("or", "orya"),
    ("pa", "guru"), ("ps", "arab"), ("sd", "arab"), ("si", "sinh"), ("ta", "taml"),
    ("te", "telu"), ("ti", "ethi"), ("ur", "arab"), ("yi", "hebr") ]

/-- The languages that are written in another script in some regions. -/
def regionalScripts : List ((String × String) × String) :=
  [ (("ha", "015"), "arab"), (("ha", "017"), "arab"), (("ha", "cm"), "arab"),
    (("ha", "sd"), "arab"), (("pa", "pk"), "arab") ]

/-- The script that a language is written in, if one is in use. -/
def likelyScript (language : String) (region : Option String) : Option String :=
  if language = "tlh" then none
  else
    let regional := region.bind fun r => regionalScripts.lookup (language, r)
    some ((regional.or (languageScripts.lookup language)).getD latin)

/-- The region that a language is at home in. -/
def homeRegion? (language : String) : Option String :=
  if language = "de" then some "de" else if language = "en" then some "us" else none

/-- The larger regions that two countries are in. -/
def containing : List (String × List String) :=
  [ ("de", ["001", "150", "155", "eu"]), ("us", ["001", "003", "019", "021"]) ]

/-- A region, or a country in the place of none and of a larger region around it. -/
def narrowed (region : Option String) (home : Option String) : Option String :=
  match region, home with
  | none, home => home
  | region, none => region
  | some r, some h => if ((containing.lookup h).getD []).contains r then some h else some r

/-- The languages of countries and the scripts they are written in.  Where nobody lives it is
    none, and in all other countries it is English. -/
def countryLanguages : List (String × String × List String) :=
  [ ("aa", "latn", ["dj"]), ("af", "latn", ["na"]), ("ak", "latn", ["gh"]), ("am", "ethi", ["et"]),
    ("ar", "arab", ["ae", "bh", "dz", "eg", "eh", "iq", "jo", "km", "kw", "lb", "ly", "ma", "mr",
      "om", "ps", "qa", "sa", "sd", "ss", "sy", "tn", "ye"]),
    ("az", "latn", ["az"]), ("be", "cyrl", ["by"]), ("bg", "cyrl", ["bg"]), ("bi", "latn", ["vu"]),
    ("bm", "latn", ["ml"]), ("bn", "beng", ["bd"]), ("bs", "latn", ["ba"]), ("ca", "latn", ["ad"]),
    ("cs", "latn", ["cz"]), ("da", "latn", ["dk"]), ("de", "latn", ["at", "ch", "de", "ez", "li"]),
    ("dv", "thaa", ["mv"]), ("dz", "tibt", ["bt"]), ("el", "grek", ["cy", "gr"]),
    ("es", "latn", ["ar", "bo", "cl", "co", "cr", "cu", "do", "ea", "ec", "es", "gq", "gt", "hn",
      "ic", "mx", "ni", "pa", "pe", "pr", "sv", "uy", "ve"]),
    ("et", "latn", ["ee"]), ("fa", "arab", ["af", "ir"]), ("fi", "latn", ["fi"]),
    ("fil", "latn", ["ph"]), ("fo", "latn", ["fo"]),
    ("fr", "latn", ["bf", "bj", "bl", "cg", "ci", "cm", "fr", "ga", "gf", "gn", "gp", "lu", "mc",
      "mf", "mq", "nc", "pf", "pm", "re", "sc", "td", "tf", "tg", "wf", "yt"]),
    ("gn", "latn", ["py"]), ("ha", "latn", ["ne"]), ("he", "hebr", ["il"]), ("hi", "deva", ["in"]),
    ("hr", "latn", ["hr"]), ("ht", "latn", ["ht"]), ("hu", "latn", ["hu"]), ("hy", "armn", ["am"]),
    ("id", "latn", ["id"]), ("is", "latn", ["is"]), ("it", "latn", ["it", "sm", "va"]),
    ("ja", "jpan", ["jp"]), ("ka", "geor", ["ge"]), ("kl", "latn", ["gl"]), ("km", "khmr", ["kh"]),
    ("ko", "kore", ["kp", "kr"]), ("ky", "cyrl", ["kg"]), ("lo", "laoo", ["la"]),
    ("lt", "latn", ["lt"]), ("lv", "latn", ["lv"]), ("mfe", "latn", ["mu"]), ("mg", "latn", ["mg"]),
    ("mk", "cyrl", ["mk"]), ("mn", "cyrl", ["mn"]), ("ms", "latn", ["bn", "my"]),
    ("mt", "latn", ["mt"]), ("my", "mymr", ["mm"]), ("nb", "latn", ["no", "sj"]),
    ("ne", "deva", ["np"]), ("nl", "latn", ["aw", "be", "nl", "sr"]), ("pap", "latn", ["bq", "cw"]),
    ("pau", "latn", ["pw"]), ("pl", "latn", ["pl"]),
    ("pt", "latn", ["ao", "br", "cv", "gw", "mz", "pt", "st", "tl"]), ("rn", "latn", ["bi"]),
    ("ro", "latn", ["md", "ro"]), ("ru", "cyrl", ["kz", "ru"]), ("rw", "latn", ["rw"]),
    ("sg", "latn", ["cf"]), ("si", "sinh", ["lk"]), ("sk", "latn", ["sk"]), ("sl", "latn", ["si"]),
    ("sm", "latn", ["as", "ws"]), ("sn", "latn", ["zw"]), ("so", "latn", ["so"]),
    ("sq", "latn", ["al", "xk"]), ("sr", "cyrl", ["rs"]), ("sr", "latn", ["me"]),
    ("st", "latn", ["ls"]), ("sv", "latn", ["ax", "se"]), ("sw", "latn", ["cd", "ke", "tz", "ug"]),
    ("tg", "cyrl", ["tj"]), ("th", "thai", ["th"]), ("ti", "ethi", ["er"]), ("tk", "latn", ["tm"]),
    ("tkl", "latn", ["tk"]), ("to", "latn", ["to"]), ("tpi", "latn", ["pg"]),
    ("tr", "latn", ["tr"]), ("tvl", "latn", ["tv"]), ("uk", "cyrl", ["ua"]),
    ("und", "latn", ["aq", "bv", "cp", "gs", "hm"]), ("ur", "arab", ["pk"]), ("uz", "latn", ["uz"]),
    ("vi", "latn", ["vn"]), ("wo", "latn", ["sn"]), ("zh", "hans", ["cn"]),
    ("zh", "hant", ["hk", "mo", "tw"]) ]

/-- The languages of larger regions, the scripts they are written in, and their countries. -/
def groupLanguages : List (String × String × String × String) :=
  [ ("002", "en", "latn", "ng"), ("003", "en", "latn", "us"), ("005", "pt", "latn", "br"),
    ("009", "en", "latn", "au"), ("011", "en", "latn", "ng"), ("013", "es", "latn", "mx"),
    ("014", "sw", "latn", "tz"), ("015", "ar", "arab", "eg"), ("017", "sw", "latn", "cd"),
    ("018", "en", "latn", "za"), ("019", "en", "latn", "us"), ("021", "en", "latn", "us"),
    ("029", "es", "latn", "cu"), ("030", "zh", "hans", "cn"), ("034", "hi", "deva", "in"),
    ("035", "id", "latn", "id"), ("039", "it", "latn", "it"), ("053", "en", "latn", "au"),
    ("054", "en", "latn", "pg"), ("057", "en", "latn", "gu"), ("061", "sm", "latn", "ws"),
    ("142", "zh", "hans", "cn"), ("143", "uz", "latn", "uz"), ("145", "ar", "arab", "sa"),
    ("150", "ru", "cyrl", "ru"), ("151", "ru", "cyrl", "ru"), ("154", "en", "latn", "gb"),
    ("155", "de", "latn", "de"), ("202", "en", "latn", "ng"), ("419", "es", "latn", "419") ]

/-- The languages of scripts that only one language near to English is written in. -/
def scriptLanguages : List (String × String) :=
  [ ("beng", "bn"), ("cher", "chr"), ("geor", "ka"), ("guru", "pa"), ("khmr", "km"),
    ("knda", "kn"), ("laoo", "lo"), ("mlym", "ml"), ("mymr", "my"), ("orya", "or"),
    ("sinh", "si"), ("taml", "ta"), ("telu", "te") ]

/-- The languages of scripts in some regions. -/
def pairLanguages : List ((String × String) × String) :=
  [ (("arab", "in"), "ur"), (("arab", "mu"), "ur"), (("arab", "ng"), "ha"), (("deva", "bt"), "ne"),
    (("hebr", "ca"), "yi"), (("hebr", "gb"), "yi"), (("hebr", "se"), "yi"), (("hebr", "ua"), "yi"),
    (("hebr", "us"), "yi"), (("latn", "af"), "tk"), (("latn", "am"), "ku"), (("latn", "cn"), "za"),
    (("latn", "cy"), "tr"), (("latn", "dz"), "fr"), (("latn", "ge"), "ku"), (("latn", "ir"), "tk"),
    (("latn", "km"), "fr"), (("latn", "ma"), "fr"), (("latn", "mk"), "sq"), (("latn", "mm"), "kac"),
    (("latn", "mo"), "pt"), (("latn", "mr"), "fr"), (("latn", "ru"), "krl"), (("latn", "sy"), "fr"),
    (("latn", "tn"), "fr"), (("latn", "tw"), "trv"), (("latn", "ua"), "pl"),
    (("mymr", "in"), "kht"), (("mymr", "th"), "shn") ]

/-- A tag with nothing left out, as far as that is known. -/
structure Complete where
  language : String
  script : Option String
  region : Option String
  deriving DecidableEq, Repr

/-- The language of a country, with its script. -/
def countryLanguage? (region : String) : Option (String × String) :=
  (countryLanguages.find? fun e => e.2.2.contains region).map fun e => (e.1, e.2.1)

/-- The most likely tag for a script and a region. -/
def completeRest (script region : Option String) : Complete :=
  let english := narrowed region (some "us")
  match script, region with
  | none, none => ⟨"en", some latin, english⟩
  | none, some r =>
    match groupLanguages.lookup r with
    | some (language, script, country) => ⟨language, some script, some country⟩
    | none =>
      match countryLanguage? r with
      | some (language, script) => ⟨language, some script, region⟩
      | none => ⟨"en", some latin, english⟩
  | some s, region =>
    let native := region.bind fun r =>
      (countryLanguage? r).bind fun e => if e.2 = s then some e.1 else none
    let paired := region.bind fun r => pairLanguages.lookup (s, r)
    match native.or paired with
    | some language => ⟨language, script, region⟩
    | none => ⟨(scriptLanguages.lookup s).getD "en", script, english⟩

/-- A region, or the country in the place of a larger region that is mainly known for it in a
    language and script. -/
def mainCountry (language : String) (script : Option String) (region : String) : String :=
  match groupLanguages.lookup region with
  | some (l, s, country) => if l = language && script = some s then country else region
  | none => region

/-- The most likely tag for one that leaves out some parts. -/
def Tag.complete (t : Tag) : Complete :=
  match t.language with
  | none => completeRest t.script t.region
  | some language =>
    let script := t.script.or (likelyScript language t.region)
    let region :=
      if t.script.isSome && t.region.isSome then t.region
      else narrowed t.region (homeRegion? language)
    ⟨language, script, region.map (mainCountry language script)⟩

end Locale

end TwoPass
