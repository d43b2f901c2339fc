/-!
# Script and variant codes

A script has a code of four letters.  Variants of a language, such as spellings and dialects,
have registered names of four to eight letters and digits.  All are in lower case.
-/

namespace TwoPass

namespace Locale

/-- The codes of the scripts. -/
def scripts : List String :=
  [ "adlm", "afak", "aghb", "ahom", "arab", "aran", "armi", "armn", "avst", "bali", "bamu", "bass",
    "batk", "beng", "bhks", "blis", "bopo", "brah", "brai", "bugi", "buhd", "cakm", "cans", "cari",
    "cham", "cher", "chrs", "cirt", "copt", "cpmn", "cprt", "cyrl", "cyrs", "deva", "diak", "dogr",
    "dsrt", "dupl", "egyd", "egyh", "egyp", "elba", "elym", "ethi", "geok", "geor", "glag", "gong",
    "gonm", "goth", "gran", "grek", "gujr", "guru", "hanb", "hang", "hani", "hano", "hans", "hant",
    "hatr", "hebr", "hira", "hluw", "hmng", "hmnp", "hrkt", "hung", "inds", "ital", "jamo", "java",
    "jpan", "jurc", "kali", "kana", "kawi", "khar", "khmr", "khoj", "kitl", "kits", "knda", "kore",
    "kpel", "kthi", "lana", "laoo", "latf", "latg", "latn", "leke", "lepc", "limb", "lina", "linb",
    "lisu", "loma", "lyci", "lydi", "mahj", "maka", "mand", "mani", "marc", "maya", "medf", "mend",
    "merc", "mero", "mlym", "modi", "mong", "moon", "mroo", "mtei", "mult", "mymr", "nagm", "nand",
    "narb", "nbat", "newa", "nkdb", "nkgb", "nkoo", "nshu", "ogam", "olck", "orkh", "orya", "osge",
    "osma", "ougr", "palm", "pauc", "pcun", "pelm", "perm", "phag", "phli", "phlp", "phlv", "phnx",
    "piqd", "plrd", "prti", "psin", "ranj", "rjng", "rohg", "roro", "runr", "samr", "sara", "sarb",
    "saur", "sgnw", "shaw", "shrd", "shui", "sidd", "sind", "sinh", "sogd", "sogo", "sora", "soyo",
    "sund", "sunu", "sylo", "syrc", "syre", "syrj", "syrn", "tagb", "takr", "tale", "talu", "taml",
    "tang", "tavt", "telu", "teng", "tfng", "tglg", "thaa", "thai", "tibt", "tirh", "tnsa", "toto",
    "ugar", "vaii", "visp", "vith", "wara", "wcho", "wole", "xpeo", "xsux", "yezi", "yiii", "zanb",
    "zinh", "zmth", "zsye", "zsym", "zxxx", "zyyy", "zzzz" ]

/-- Whether a code of four letters is reserved for private scripts: `qaaa` to `qabx`. -/
def isPrivateScript (code : String) : Bool :=
  match code.toList with
  | ['q', 'a', 'a', c] => 'a' ≤ c && c ≤ 'z'
  | ['q', 'a', 'b', c] => 'a' ≤ c && c ≤ 'x'
  | _ => false

/-- Whether a code is that of a script. -/
def isScript (code : String) : Bool := scripts.contains code || isPrivateScript code

/-- The names of the variants by rank: those of one language, those of other variants, and those
    of any language. -/
def variantNames : List String :=
  [ "1606nict", "1694acad", "1901", "1959acad", "1996", "abl1943", "akuapem", "aluku", "ao1990",
    "aranes", "arevela", "arevmda", "arkaika", "asante", "auvern", "baku1926", "balanka", "barla",
    "basiceng", "bauddha", "bciav", "bcizbl", "biscayan", "bohoric", "boont", "bornholm", "cisaup",
    "colb1945", "cornu", "creiss", "dajnko", "ekavsk", "emodeng", "gallo", "gascon", "grclass",
    "grital", "grmistr", "hepburn", "hognorsk", "hsistemo", "ijekavsk", "itihasa", "ivanchov",
    "jauer", "jyutping", "kkcor", "kociewie", "kscor", "laukika", "lemosin", "lengadoc", "ltg1929",
    "ltg2007", "luna1918", "metelko", "monoton", "ndyuka", "newfound", "nicard", "nulik",
    "oxendict", "pahawh2", "pahawh3", "pahawh4", "pamaka", "peano", "petr1708", "pinyin", "polyton",
    "provenc", "puter", "rigik", "rozaj", "rumgr", "scotland", "scouse", "sotav", "spanglis",
    "surmiran", "sursilv", "sutsilv", "synnejyl", "tarask", "tongyong", "tunumiit", "uccor",
    "ucrcor", "ulster", "unifon", "vaidika", "valencia", "vallader", "vecdruka", "vivaraup",
    "wadegile", "xsistemo", "biske", "lipaw", "nedis", "njiva", "osojs", "solba", "1994", "heploc",
    "alalc97", "fonipa", "fonkirsh", "fonnapa", "fonupa", "fonxsamp", "simple" ]

end Locale

end TwoPass
