/-!
# Region codes

A country has a code of two letters, one of three letters and a number.  Larger regions have
only a number, and a few regions that are no countries only two letters.  All codes are in
lower case.
-/

namespace TwoPass

namespace Locale

/-- The codes of the countries: two letters, three letters, and the number. -/
def countries : List (String × String × String) :=
  [ ("ad", "and", "020"), ("ae", "are", "784"), ("af", "afg", "004"), ("ag", "atg", "028"),
    ("ai", "aia", "660"), ("al", "alb", "008"), ("am", "arm", "051"), ("ao", "ago", "024"),
    ("aq", "ata", "010"), ("ar", "arg", "032"), ("as", "asm", "016"), ("at", "aut", "040"),
    ("au", "aus", "036"), ("aw", "abw", "533"), ("ax", "ala", "248"), ("az", "aze", "031"),
    ("ba", "bih", "070"), ("bb", "brb", "052"), ("bd", "bgd", "050"), ("be", "bel", "056"),
    ("bf", "bfa", "854"), ("bg", "bgr", "100"), ("bh", "bhr", "048"), ("bi", "bdi", "108"),
    ("bj", "ben", "204"), ("bl", "blm", "652"), ("bm", "bmu", "060"), ("bn", "brn", "096"),
    ("bo", "bol", "068"), ("bq", "bes", "535"), ("br", "bra", "076"), ("bs", "bhs", "044"),
    ("bt", "btn", "064"), ("bv", "bvt", "074"), ("bw", "bwa", "072"), ("by", "blr", "112"),
    ("bz", "blz", "084"), ("ca", "can", "124"), ("cc", "cck", "166"), ("cd", "cod", "180"),
    ("cf", "caf", "140"), ("cg", "cog", "178"), ("ch", "che", "756"), ("ci", "civ", "384"),
    ("ck", "cok", "184"), ("cl", "chl", "152"), ("cm", "cmr", "120"), ("cn", "chn", "156"),
    ("co", "col", "170"), ("cr", "cri", "188"), ("cu", "cub", "192"), ("cv", "cpv", "132"),
    ("cw", "cuw", "531"), ("cx", "cxr", "162"), ("cy", "cyp", "196"), ("cz", "cze", "203"),
    ("de", "deu", "276"), ("dj", "dji", "262"), ("dk", "dnk", "208"), ("dm", "dma", "212"),
    ("do", "dom", "214"), ("dz", "dza", "012"), ("ec", "ecu", "218"), ("ee", "est", "233"),
    ("eg", "egy", "818"), ("eh", "esh", "732"), ("er", "eri", "232"), ("es", "esp", "724"),
    ("et", "eth", "231"), ("fi", "fin", "246"), ("fj", "fji", "242"), ("fk", "flk", "238"),
    ("fm", "fsm", "583"), ("fo", "fro", "234"), ("fr", "fra", "250"), ("ga", "gab", "266"),
    ("gb", "gbr", "826"), ("gd", "grd", "308"), ("ge", "geo", "268"), ("gf", "guf", "254"),
    ("gg", "ggy", "831"), ("gh", "gha", "288"), ("gi", "gib", "292"), ("gl", "grl", "304"),
    ("gm", "gmb", "270"), ("gn", "gin", "324"), ("gp", "glp", "312"), ("gq", "gnq", "226"),
    ("gr", "grc", "300"), ("gs", "sgs", "239"), ("gt", "gtm", "320"), ("gu", "gum", "316"),
    ("gw", "gnb", "624"), ("gy", "guy", "328"), ("hk", "hkg", "344"), ("hm", "hmd", "334"),
    ("hn", "hnd", "340"), ("hr", "hrv", "191"), ("ht", "hti", "332"), ("hu", "hun", "348"),
    ("id", "idn", "360"), ("ie", "irl", "372"), ("il", "isr", "376"), ("im", "imn", "833"),
    ("in", "ind", "356"), ("io", "iot", "086"), ("iq", "irq", "368"), ("ir", "irn", "364"),
    ("is", "isl", "352"), ("it", "ita", "380"), ("je", "jey", "832"), ("jm", "jam", "388"),
    ("jo", "jor", "400"), ("jp", "jpn", "392"), ("ke", "ken", "404"), ("kg", "kgz", "417"),
    ("kh", "khm", "116"), ("ki", "kir", "296"), ("km", "com", "174"), ("kn", "kna", "659"),
    ("kp", "prk", "408"), ("kr", "kor", "410"), ("kw", "kwt", "414"), ("ky", "cym", "136"),
    ("kz", "kaz", "398"), ("la", "lao", "418"), ("lb", "lbn", "422"), ("lc", "lca", "662"),
    ("li", "lie", "438"), ("lk", "lka", "144"), ("lr", "lbr", "430"), ("ls", "lso", "426"),
    ("lt", "ltu", "440"), ("lu", "lux", "442"), ("lv", "lva", "428"), ("ly", "lby", "434"),
    ("ma", "mar", "504"), ("mc", "mco", "492"), ("md", "mda", "498"), ("me", "mne", "499"),
    ("mf", "maf", "663"), ("mg", "mdg", "450"), ("mh", "mhl", "584"), ("mk", "mkd", "807"),
    ("ml", "mli", "466"), ("mm", "mmr", "104"), ("mn", "mng", "496"), ("mo", "mac", "446"),
    ("mp", "mnp", "580"), ("mq", "mtq", "474"), ("mr", "mrt", "478"), ("ms", "msr", "500"),
    ("mt", "mlt", "470"), ("mu", "mus", "480"), ("mv", "mdv", "462"), ("mw", "mwi", "454"),
    ("mx", "mex", "484"), ("my", "mys", "458"), ("mz", "moz", "508"), ("na", "nam", "516"),
    ("nc", "ncl", "540"), ("ne", "ner", "562"), ("nf", "nfk", "574"), ("ng", "nga", "566"),
    ("ni", "nic", "558"), ("nl", "nld", "528"), ("no", "nor", "578"), ("np", "npl", "524"),
    ("nr", "nru", "520"), ("nu", "niu", "570"), ("nz", "nzl", "554"), ("om", "omn", "512"),
    ("pa", "pan", "591"), ("pe", "per", "604"), ("pf", "pyf", "258"), ("pg", "png", "598"),
    ("ph", "phl", "608"), ("pk", "pak", "586"), ("pl", "pol", "616"), ("pm", "spm", "666"),
    ("pn", "pcn", "612"), ("pr", "pri", "630"), ("ps", "pse", "275"), ("pt", "prt", "620"),
    ("pw", "plw", "585"), ("py", "pry", "600"), ("qa", "qat", "634"), ("re", "reu", "638"),
    ("ro", "rou", "642"), ("rs", "srb", "688"), ("ru", "rus", "643"), ("rw", "rwa", "646"),
    ("sa", "sau", "682"), ("sb", "slb", "090"), ("sc", "syc", "690"), ("sd", "sdn", "729"),
    ("se", "swe", "752"), ("sg", "sgp", "702"), ("sh", "shn", "654"), ("si", "svn", "705"),
    ("sj", "sjm", "744"), ("sk", "svk", "703"), ("sl", "sle", "694"), ("sm", "smr", "674"),
    ("sn", "sen", "686"), ("so", "som", "706"), ("sr", "sur", "740"), ("ss", "ssd", "728"),
    ("st", "stp", "678"), ("sv", "slv", "222"), ("sx", "sxm", "534"), ("sy", "syr", "760"),
    ("sz", "swz", "748"), ("tc", "tca", "796"), ("td", "tcd", "148"), ("tf", "atf", "260"),
    ("tg", "tgo", "768"), ("th", "tha", "764"), ("tj", "tjk", "762"), ("tk", "tkl", "772"),
    ("tl", "tls", "626"), ("tm", "tkm", "795"), ("tn", "tun", "788"), ("to", "ton", "776"),
    ("tr", "tur", "792"), ("tt", "tto", "780"), ("tv", "tuv", "798"), ("tw", "twn", "158"),
    ("tz", "tza", "834"), ("ua", "ukr", "804"), ("ug", "uga", "800"), ("um", "umi", "581"),
    ("us", "usa", "840"), ("uy", "ury", "858"), ("uz", "uzb", "860"), ("va", "vat", "336"),
    ("vc", "vct", "670"), ("ve", "ven", "862"), ("vg", "vgb", "092"), ("vi", "vir", "850"),
    ("vn", "vnm", "704"), ("vu", "vut", "548"), ("wf", "wlf", "876"), ("ws", "wsm", "882"),
    ("ye", "yem", "887"), ("yt", "myt", "175"), ("za", "zaf", "710"), ("zm", "zmb", "894"),
    ("zw", "zwe", "716") ]

/-- Codes of two letters that are reserved, once were in use, or stand for other regions. -/
def specialRegions : List String :=
  [ "aa", "ac", "an", "bu", "cp", "cq", "cs", "ct", "dd", "dg", "dy", "ea", "eu", "ez", "fq", "fx",
    "hv", "ic", "jt", "mi", "nh", "nq", "nt", "pc", "pu", "pz", "qm", "qn", "qo", "qp", "qq", "qr",
    "qs", "qt", "qu", "qv", "qw", "qx", "qy", "qz", "rh", "su", "ta", "tp", "uk", "un", "vd", "wk",
    "xa", "xb", "xc", "xd", "xe", "xf", "xg", "xh", "xi", "xj", "xk", "xl", "xm", "xn", "xo", "xp",
    "xq", "xr", "xs", "xt", "xu", "xv", "xw", "xx", "xy", "xz", "yd", "yu", "zr", "zz" ]

/-- The codes of three letters of reserved and former codes that have one. -/
def specialNames : List (String × String) :=
  [ ("aaa", "aa"), ("ant", "an"), ("asc", "ac"), ("atn", "nq"), ("bur", "bu"), ("cpt", "cp"),
    ("cte", "ct"), ("ddr", "dd"), ("dga", "dg"), ("dhy", "dy"), ("fxx", "fx"), ("hvo", "hv"),
    ("jtn", "jt"), ("mid", "mi"), ("nhb", "nh"), ("ntz", "nt"), ("pci", "pc"), ("pcz", "pz"),
    ("pus", "pu"), ("qmm", "qm"), ("qnn", "qn"), ("qoo", "qo"), ("qpp", "qp"), ("qqq", "qq"),
    ("qrr", "qr"), ("qss", "qs"), ("qtt", "qt"), ("quu", "eu"), ("qvv", "qv"), ("qww", "qw"),
    ("qxx", "qx"), ("qyy", "qy"), ("qzz", "qz"), ("rho", "rh"), ("scg", "cs"), ("sun", "su"),
    ("taa", "ta"), ("tmp", "tp"), ("vdr", "vd"), ("wak", "wk"), ("xaa", "xa"), ("xbb", "xb"),
    ("xcc", "xc"), ("xdd", "xd"), ("xee", "xe"), ("xff", "xf"), ("xgg", "xg"), ("xhh", "xh"),
    ("xii", "xi"), ("xjj", "xj"), ("xkk", "xk"), ("xll", "xl"), ("xmm", "xm"), ("xnn", "xn"),
    ("xoo", "xo"), ("xpp", "xp"), ("xqq", "xq"), ("xrr", "xr"), ("xss", "xs"), ("xtt", "xt"),
    ("xuu", "xu"), ("xvv", "xv"), ("xww", "xw"), ("xxx", "xx"), ("xyy", "xy"), ("xzz", "xz"),
    ("ymd", "yd"), ("yug", "yu"), ("zar", "zr"), ("zzz", "zz") ]

/-- The numbers of regions with several countries. -/
def regionGroups : List String :=
  [ "001", "002", "003", "005", "009", "011", "013", "014", "015", "017", "018", "019", "021",
    "029", "030", "034", "035", "039", "053", "054", "057", "061", "142", "143", "145", "150",
    "151", "154", "155", "202", "419" ]

/-- The numbers of some reserved and former codes, and former numbers of countries. -/
def specialNumbers : List (String × String) :=
  [ ("230", "et"), ("249", "fx"), ("278", "dd"), ("280", "de"), ("530", "an"), ("536", "nt"),
    ("720", "yd"), ("736", "sd"), ("810", "su"), ("886", "ye"), ("891", "cs"), ("958", "aa"),
    ("959", "qm"), ("960", "qn"), ("961", "qo"), ("962", "qp"), ("963", "qq"), ("964", "qr"),
    ("965", "qs"), ("966", "qt"), ("967", "qu"), ("968", "qv"), ("969", "qw"), ("970", "qx"),
    ("971", "qy"), ("972", "qz"), ("973", "xa"), ("974", "xb"), ("975", "xc"), ("976", "xd"),
    ("977", "xe"), ("978", "xf"), ("979", "xg"), ("980", "xh"), ("981", "xi"), ("982", "xj"),
    ("983", "xk"), ("984", "xl"), ("985", "xm"), ("986", "xn"), ("987", "xo"), ("988", "xp"),
    ("989", "xq"), ("990", "xr"), ("991", "xs"), ("992", "xt"), ("993", "xu"), ("994", "xv"),
    ("995", "xw"), ("996", "xx"), ("997", "xy"), ("998", "xz"), ("999", "zz") ]

/-- Former codes, with those that replace them. -/
def formerRegions : List (String × String) :=
  [ ("bu", "mm"), ("ct", "ki"), ("dd", "de"), ("dy", "bj"), ("fx", "fr"), ("hv", "bf"),
    ("jt", "um"), ("mi", "um"), ("nh", "vu"), ("nq", "aq"), ("pu", "um"), ("pz", "pa"),
    ("qu", "eu"), ("rh", "zw"), ("tp", "tl"), ("uk", "gb"), ("vd", "vn"), ("wk", "um"),
    ("yd", "ye"), ("zr", "cd") ]

/-- The code of a region, as it was in use when it was written: two letters, or the number of
    a larger region. -/
def knownRegion? (code : String) : Option String :=
  match countries.find? fun c => c.1 = code || c.2.1 = code || c.2.2 = code with
  | some c => some c.1
  | none =>
    if specialRegions.contains code || regionGroups.contains code then some code
    else (specialNames.lookup code).or (specialNumbers.lookup code)

/-- The code that stands for a region now. -/
def region? (code : String) : Option String :=
  (knownRegion? code).map fun r => (formerRegions.lookup r).getD r

end Locale

end TwoPass
