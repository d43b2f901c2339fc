/-!
# Language codes

Languages have codes of two or three letters.  A language with a code of two letters is also
known under one of three letters, and some under another that libraries used.  All codes are
in lower case.
-/

namespace TwoPass

namespace Locale

/-- The codes of two letters. -/
def shortLanguages : List String :=
  [ "aa", "ab", "ae", "af", "ak", "am", "an", "ar", "as", "av", "ay", "az", "ba", "be", "bg",
    "bh", "bi", "bm", "bn", "bo", "br", "bs", "ca", "ce", "ch", "co", "cr", "cs", "cu", "cv",
    "cy", "da", "de", "dv", "dz", "ee", "el", "en", "eo", "es", "et", "eu", "fa", "ff", "fi",
    "fj", "fo", "fr", "fy", "ga", "gd", "gl", "gn", "gu", "gv", "ha", "he", "hi", "ho", "hr",
    "ht", "hu", "hy", "hz", "ia", "id", "ie", "ig", "ii", "ik", "in", "io", "is", "it", "iu",
    "iw", "ja", "ji", "jv", "jw", "ka", "kg", "ki", "kj", "kk", "kl", "km", "kn", "ko", "kr",
    "ks", "ku", "kv", "kw", "ky", "la", "lb", "lg", "li", "ln", "lo", "lt", "lu", "lv", "mg",
    "mh", "mi", "mk", "ml", "mn", "mo", "mr", "ms", "mt", "my", "na", "nb", "nd", "ne", "ng",
    "nl", "nn", "no", "nr", "nv", "ny", "oc", "oj", "om", "or", "os", "pa", "pi", "pl", "ps",
    "pt", "qu", "rm", "rn", "ro", "ru", "rw", "sa", "sc", "sd", "se", "sg", "sh", "si", "sk",
    "sl", "sm", "sn", "so", "sq", "sr", "ss", "st", "su", "sv", "sw", "ta", "te", "tg", "th",
    "ti", "tk", "tl", "tn", "to", "tr", "ts", "tt", "tw", "ty", "ug", "uk", "ur", "uz", "ve",
    "vi", "vo", "wa", "wo", "xh", "yi", "yo", "za", "zh", "zu" ]

/-- The codes of three letters of languages that have one of two. -/
def longLanguages : List (String × String) :=
  [ ("aar", "aa"), ("abk", "ab"), ("afr", "af"), ("aka", "ak"), ("amh", "am"), ("ara", "ar"),
    ("arg", "an"), ("asm", "as"), ("ava", "av"), ("ave", "ae"), ("aym", "ay"), ("aze", "az"),
    ("bak", "ba"), ("bam", "bm"), ("bel", "be"), ("ben", "bn"), ("bih", "bh"), ("bis", "bi"),
    ("bod", "bo"), ("bos", "bs"), ("bre", "br"), ("bul", "bg"), ("cat", "ca"), ("ces", "cs"),
    ("cha", "ch"), ("che", "ce"), ("chu", "cu"), ("chv", "cv"), ("cor", "kw"), ("cos", "co"),
    ("cre", "cr"), ("cym", "cy"), ("dan", "da"), ("deu", "de"), ("div", "dv"), ("dzo", "dz"),
    ("ell", "el"), ("eng", "en"), ("epo", "eo"), ("est", "et"), ("eus", "eu"), ("ewe", "ee"),
    ("fao", "fo"), ("fas", "fa"), ("fij", "fj"), ("fin", "fi"), ("fra", "fr"), ("fry", "fy"),
    ("ful", "ff"), ("gla", "gd"), ("gle", "ga"), ("glg", "gl"), ("glv", "gv"), ("grn", "gn"),
    ("guj", "gu"), ("hat", "ht"), ("hau", "ha"), ("hbs", "sh"), ("heb", "he"), ("her", "hz"),
    ("hin", "hi"), ("hmo", "ho"), ("hrv", "hr"), ("hun", "hu"), ("hye", "hy"), ("ibo", "ig"),
    ("ido", "io"), ("iii", "ii"), ("iku", "iu"), ("ile", "ie"), ("ina", "ia"), ("ind", "id"),
    ("ipk", "ik"), ("isl", "is"), ("ita", "it"), ("jav", "jv"), ("jpn", "ja"), ("kal", "kl"),
    ("kan", "kn"), ("kas", "ks"), ("kat", "ka"), ("kau", "kr"), ("kaz", "kk"), ("khm", "km"),
    ("kik", "ki"), ("kin", "rw"), ("kir", "ky"), ("kom", "kv"), ("kon", "kg"), ("kor", "ko"),
    ("kua", "kj"), ("kur", "ku"), ("lao", "lo"), ("lat", "la"), ("lav", "lv"), ("lim", "li"),
    ("lin", "ln"), ("lit", "lt"), ("ltz", "lb"), ("lub", "lu"), ("lug", "lg"), ("mah", "mh"),
    ("mal", "ml"), ("mar", "mr"), ("mkd", "mk"), ("mlg", "mg"), ("mlt", "mt"), ("mol", "mo"),
    ("mon", "mn"), ("mri", "mi"), ("msa", "ms"), ("mya", "my"), ("nau", "na"), ("nav", "nv"),
    ("nbl", "nr"), ("nde", "nd"), ("ndo", "ng"), ("nep", "ne"), ("nld", "nl"), ("nno", "nn"),
    ("nob", "nb"), ("nor", "no"), ("nya", "ny"), ("oci", "oc"), ("oji", "oj"), ("ori", "or"),
    ("orm", "om"), ("oss", "os"), ("pan", "pa"), ("pli", "pi"), ("pol", "pl"), ("por", "pt"),
    ("pus", "ps"), ("que", "qu"), ("roh", "rm"), ("ron", "ro"), ("run", "rn"), ("rus", "ru"),
    ("sag", "sg"), ("san", "sa"), ("sin", "si"), ("slk", "sk"), ("slv", "sl"), ("sme", "se"),
    ("smo", "sm"), ("sna", "sn"), ("snd", "sd"), ("som", "so"), ("sot", "st"), ("spa", "es"),
    ("sqi", "sq"), ("srd", "sc"), ("srp", "sr"), ("ssw", "ss"), ("sun", "su"), ("swa", "sw"),
    ("swe", "sv"), ("tah", "ty"), ("tam", "ta"), ("tat", "tt"), ("tel", "te"), ("tgk", "tg"),
    ("tgl", "tl"), ("tha", "th"), ("tir", "ti"), ("ton", "to"), ("tsn", "tn"), ("tso", "ts"),
    ("tuk", "tk"), ("tur", "tr"), ("twi", "tw"), ("uig", "ug"), ("ukr", "uk"), ("urd", "ur"),
    ("uzb", "uz"), ("ven", "ve"), ("vie", "vi"), ("vol", "vo"), ("wln", "wa"), ("wol", "wo"),
    ("xho", "xh"), ("yid", "yi"), ("yor", "yo"), ("zha", "za"), ("zho", "zh"), ("zul", "zu") ]

/-- The codes of three letters that libraries used. -/
def libraryLanguages : List (String × String) :=
  [ ("alb", "sq"), ("arm", "hy"), ("baq", "eu"), ("bur", "my"), ("chi", "zh"), ("cze", "cs"),
    ("dut", "nl"), ("fre", "fr"), ("geo", "ka"), ("ger", "de"), ("gre", "el"), ("ice", "is"),
    ("mac", "mk"), ("mao", "mi"), ("may", "ms"), ("per", "fa"), ("rum", "ro"), ("slo", "sk"),
    ("tib", "bo"), ("wel", "cy") ]

/-- The other codes of three letters.  For each first letter and each second letter there is
    a number, of which the lowest bits stand for the third letters from `a` to `z`. -/
def otherLanguages : List (List Nat) :=
  [
    [ 0x2fdfdff, 0x3fffbff, 0x3ffbdbb, 0x3dfebfb, 0x3573c1f, 0x21ce5db, 0x3ffffff, 0xefdc3,
      0x1cfffff, 0x25ca141, 0x3ffdffe, 0x3fffffd, 0x3ffff77, 0x3ffffff, 0x29e3fff, 0x3ffffff,
      0x20abc4d, 0x3ffef9e, 0x3ffefff, 0x3ffffdf, 0x3dfffff, 0x3c7d0a, 0x1fe75df, 0x801c52,
      0x39feddf, 0x208724f ],
    [ 0x3feebff, 0x3ffffff, 0x37fffff, 0x3ffffff, 0x3ffd7ff, 0x3dfffff, 0x3ffff7f, 0x3ffffff,
      0x3fbfe7f, 0x3ffffff, 0x3ffffef, 0x3efffff, 0x3ffffff, 0x3ffff7f, 0x3fbfff3, 0x3ffffdf,
      0x3ffffef, 0x3ffffef, 0x1fffff7, 0x3ffffff, 0x3fdf7ff, 0x3fbffff, 0x3dfffff, 0x2f7ffff,
      0x3efffff, 0x3ffffff ],
    [ 0x3f7ffff, 0x17f6fdf, 0x7fadd, 0x30673fd, 0x1082c43, 0x1049, 0x445, 0x3cbfeee, 0x142b49f,
      0x126f591, 0x3bf7883, 0x1585f9d, 0xe7d55, 0xdfcdc7, 0x3f9feff, 0x194e177, 0x100008,
      0x3efffef, 0x3ffffff, 0x31cf8dd, 0x1ffdfc7, 0x2040, 0x8005b, 0x80, 0x4003, 0x86480 ],
    [ 0x3f7dffd, 0x17bfb7b, 0x20004, 0x466359, 0x227bdfc, 0, 0x2de6ddf, 0xf67949, 0x3dfffef,
      0x527f3f, 0x860c41, 0x3440, 0x1f67c7f, 0x17a6759, 0x3efedb7, 0x8000, 0, 0x15f69df, 0x2016d92,
      0x11ef58b, 0x3f7ffff, 1, 0x3560c01, 0, 0x112714b, 0x2859 ],
    [ 1, 0x124444, 0x1060000, 0, 0x10, 0x111, 0x1805801, 0x140000, 0x288000, 1, 0x102dd55,
      0x90d590, 0x3d5f553, 0xf378af, 0x80000, 0x100, 0, 0x4e45c1, 0x1957dd0, 0x29e6086, 0x10000,
      0x2090, 0x4000, 0x80000, 0x4001, 0x11 ],
    [ 0x39abfeb, 0x800, 0x40000, 0, 0x20000, 0x1100, 0x20000, 0, 0x5a8831, 0, 0x200400, 0x1022981,
      0x108000, 0x142, 0x863108, 0x10, 0x40000, 0xfd40c, 0x40810, 0, 0x13b33be, 0x20000, 0x11, 0,
      0, 0 ],
    [ 0x3ffffff, 0x3f7ffff, 0xa283c, 0x9f7fff, 0x3e51fef, 0x880400, 0x5a6c5b, 0xe6c95, 0x3dff9df,
      0x123500, 0x10e019, 0x1524f8e, 0x3f338db, 0x25b7fdf, 0x3ffffff, 0x2011, 0x122101, 0x3ff57cf,
      0x44f850, 0x100101, 0x2fffdff, 0x106fa35, 0xda337f, 0x800000, 0x302797b, 0x2101 ],
    [ 0x3e7ffff, 0x106003, 0x81, 0x1042000, 0x11c9, 0, 0x401000, 0x1020100, 0xca5feb, 0x100,
      0x42491, 0x18001b, 0x3ffbfff, 0x1463d9, 0x36edf9f, 0x44000, 0, 0x2dad415, 0x42882, 0x944100,
      0x3ffdffe, 0x202414, 0x4005, 0, 0xc00001, 0 ],
    [ 0x2a100, 0x11239db, 0x20881, 0x1e011f, 0, 0x1101433, 0x447852, 0x408102, 0x22000, 0x46214,
      0x2eecd90, 0x74dd43, 0x10e6911, 0x20cfad6, 0x520000, 0x4100, 0x500000, 0x1926591, 0x1a75dd,
      0x3ee5d1e, 0x1000, 0x200002, 0x45400, 0x804, 0x804001, 0x2021180 ],
    [ 0x39f7ebf, 0x5a7710, 0xc0000, 0x80041, 0x1a2dd2, 0, 0x4412, 0x40100, 0x13959df, 0x20010,
      0x16d001, 0x40010, 0xc6290f, 0x40b49, 0x46004a, 0x820001, 0x20000, 0x1a0003, 0x800, 0,
      0x15efd8f, 0x2008, 0x100, 0, 0x1000011, 0 ],
    [ 0x1e3d7ff, 0x3ffffff, 0x3ffffff, 0x3fbfffd, 0x3ffffff, 0x3ffffff, 0x1ffffff, 0x3ffefff,
      0x3fddbff, 0x3bfffff, 0x3ffffff, 0x3ffffff, 0x3ffffff, 0x3ffff7f, 0x3fdcffd, 0x3ffffff,
      0x3ffffff, 0x3feffbf, 0x3ffffff, 0x3ffffff, 0x3fdfffe, 0x3ffffff, 0x3ffffff, 0x3ffffbf,
      0x3ffffff, 0x3ffffff ],
    [ 0x3d7bfff, 0x3ff7f77, 0x598bc, 0x1ffcb, 0x3ffffff, 0x2001, 0x21f7dc3, 0x1cb981, 0x3f7cfff,
      0xc08911, 0x11e7b9f, 0x95ffff, 0x3f3ffff, 0x2547bcb, 0x3fffff7, 0x806011, 0, 0x22a7d55,
      0x16ef9df, 0x1461c4, 0x37fff3d, 0x140d01, 0x5c58d1, 0x1000, 0x2041, 0x2002880 ],
    [ 0x2fdb77b, 0x3ffffbf, 0x3ffffff, 0x3ffbfff, 0x37fffff, 0x3ffffff, 0x3ffffff, 0x3dfffff,
      0x3dfffff, 0x3ffffdf, 0x3fffff7, 0x2f7ffbf, 0x3fbffff, 0x3ffffff, 0x3ffd7fd, 0x3ffffdf,
      0x3fffff7, 0x3fffeff, 0x3fffffe, 0x1ffffff, 0x3bfffdf, 0x3fffdfb, 0x3ffffff, 0x3ffffff,
      0x3fffffe, 0x3ffffdf ],
    [ 0x3cfffff, 0x1fff7ff, 0x29fffff, 0x3ffbfef, 0x3ff77ff, 0x120809, 0x3ffffff, 0x3fbf5ff,
      0x3ff7fff, 0x39e7b8b, 0x2fff7ff, 0x3f37f55, 0x3ffffff, 0x3ffbfff, 0x37dfffd, 0x19469c3,
      0x1097c40, 0x29abd77, 0x3fffdff, 0x3d6d758, 0x3ffffff, 0x5080, 0x1c25157, 0x937d59,
      0x1fffffe, 0x316150b ],
    [ 0x220005, 0x1a5d00, 0x105081, 0x180401, 0, 0x144000, 0x104056, 0x180000, 0x2011, 0x648046,
      0x2b67fdf, 0x1a5419, 0x1fbed57, 0xdee753, 0x62048, 0x1085401, 0, 0x3fe60d5, 0x98e105,
      0x3df7d1b, 0x3113, 8, 0x900, 0, 0x100100a, 0x1000 ],
    [ 0x3ffddff, 0x33ef9f6, 0x42bfff, 0x186105, 0x3a5dffb, 0x811, 0x3142d49, 0x7b7fc9, 0x3fefbff,
      0x80000, 0x1ee0c7, 0x37feeff, 0x3df7fbf, 0x3ffffdf, 0x3edf5fc, 0x1ffd11, 0x401011, 0x3dffdff,
      0x15ff9dd, 0x17be181, 0x3dbd77f, 0, 0x427143, 0x1000, 0x1943010, 0x2090 ],
    [ 0x3ffffff, 0x3ffffff, 0x3ffffff, 0x3ffffff, 0x3ffffff, 0x3ffffff, 0x3ffffff, 0x3ffffff,
      0x3ffffff, 0x3ffffff, 0x3ffffff, 0x3ffffff, 0x3ffffff, 0x3ffffff, 0x3ffffff, 0x3ffffff,
      0x3ffffff, 0x3ffffff, 0x3ffffff, 0x3ffffff, 0x3e7bdef, 0x344fb95, 0xc1095, 0x5fe885, 0x8001,
      0 ],
    [ 0x3ffffef, 0x8c02, 0x20, 2, 0x10e3b53, 0, 0x162411, 0x8040, 0x1a3833, 0x40140, 0x481183, 0,
      0x3fffdff, 0x42a84b, 0x52d87f, 0x82000, 0, 0x85100, 0x403d02, 0x441084, 0x319c5f6, 0,
      0x25c01, 0x400008, 0x142000, 0x80 ],
    [ 0x3ffdfbf, 0x3ffffff, 0xfdedf3, 0x2bffef7, 0x37fffff, 0x441012, 0x3deffdf, 0x3ffffdf,
      0x3ffdffb, 0x5efc5b, 0x3fff7ff, 0x3dfbbfd, 0x3ffbfef, 0x3f7fff6, 0x3f7efdf, 0x1bffd5e,
      0x9f7681, 0x3ff7df7, 0x3bfffff, 0x17ffffb, 0x3ef5f57, 0x861417, 0x1ffffe6, 0x567c56,
      0x1c67d0f, 0x164a85f ],
    [ 0x3f7ef7f, 0x3ffffff, 0x3ddfdff, 0x1bf7fff, 0x3fff5ff, 0xa6100, 0x3ffe3ff, 0x3ffbdbc,
      0x3fdfffd, 0x54fb41, 0x2ffbc7b, 0x1ffffef, 0x37fffff, 0x3fffdff, 0x3f7dffe, 0x3fbff75,
      0x5bf802, 0x3ffffff, 0x3ff9fff, 0x37fffff, 0x3fdfbff, 0x1dc7d19, 0x1dbf8ff, 0x19f73d7,
      0x3beab91, 0x807a81 ],
    [ 0x23000, 0x1120901, 0, 0x101b51, 0x40000, 0x100, 0x1006093, 0x2001, 0x240000, 0x100,
      0x1758dc1, 0x1503d37, 0x16f14f, 0x292b551, 0x2400, 0x200100, 0, 0x3fafff7, 0x148581,
      0x128091, 0x123000, 0x890, 1, 0, 1, 0x42000 ],
    [ 0x136fbf1, 0x402, 0, 0, 0x2d80c, 0, 0xa0000, 0, 0x2c286c, 0x400, 0x218ff01, 0x48000,
      0x3f79fff, 0x9400, 0xa0000, 0, 0, 0xc4001, 0x200900, 0x4000, 0x83000, 0, 1, 0, 0, 0 ],
    [ 0x3ffffff, 0x6f9fb3, 0x101, 0x1180648, 0x5ef1cd, 0x40, 0x1504143, 0x100441, 0x17a3ff6, 0x101,
      0x152080b, 0x1f65dd5, 0xcc71df, 0x150f55e, 0x146757f, 4, 0, 0x3f6fdcb, 0x360541, 0x4015a2,
      0x1ba388b, 0, 0x424003, 0x400001, 0x1023103, 0 ],
    [ 0x17fff5f, 0x1c2f35f, 0x17a78d6, 0x1015405, 0x1e984a, 1, 0x52396b, 0x3a101d, 0x126a903,
      0x80002, 0x3ffefff, 0x114e15f, 0x3fffeff, 0x31f77cb, 0x42f54c, 0x3ffffff, 0x80001, 0x5b315b,
      0x137fb9f, 0x37ffbdf, 0x1afa4b, 0x46110, 0x4a4e5d, 0xa1402, 0x1080e03, 0x9080 ],
    [ 0x3ffffff, 0x1807f9b, 0x2a880, 0x40459, 0x13e2b15, 0, 0x569901, 0x40809, 0x3bfbfe1, 0,
      0x11a7dc1, 0x1127953, 0x28ffddf, 0x156cdb, 0x18c3d42, 0x200f4c3, 0, 0x1447d13, 0x106f84c,
      0x1408801, 0x3dbbf7f, 0x80001, 0x5b2841, 0x1101841, 0x2120000, 0x440 ],
    [ 0x3ffdfff, 0x580815, 0x89, 0x200, 0x30c1, 0, 0x23083, 0xc0210a, 0x2423c03, 0, 0x23ae4cb,
      0x553211, 0x3ffffff, 0x40459, 0x75084, 0x3ffffff, 0x10, 0x4e041, 0x121c01, 0x19db850,
      0x1003081, 0, 1, 0x800000, 0xa242, 0x201 ] ]

/-- The place of a letter in the alphabet. -/
def letterPlace (c : Char) : Nat := c.toNat - 'a'.toNat

/-- Whether a code of three letters is one of the other codes. -/
def isOtherLanguage (code : String) : Bool :=
  match code.toList with
  | [a, b, c] =>
    ((otherLanguages.getD (letterPlace a) []).getD (letterPlace b) 0).testBit (letterPlace c)
  | _ => false

/-- The code of a language behind one that is in use.  There is none behind the code for
    an undetermined language. -/
def language? (code : String) : Option (Option String) :=
  if code = "und" then some none
  else if shortLanguages.contains code || isOtherLanguage code then some (some code)
  else ((longLanguages.lookup code).or (libraryLanguages.lookup code)).map some

end Locale

end TwoPass
