import TwoPass.Locale.Likely
import TwoPass.Messages.Catalogue

/-!
# Matching — the message language for wanted tags

There are messages for two tags: German, and English as in the United States.  Speakers of some
other languages are served by one of them as well.  Each wanted tag that is served at all is
compared with the best one so far: first by how well it is served, and then by how close the
tag is to the one that there are messages for.  A tag that is served exactly ends the search,
and one that is served in its own language keeps the others from taking its place.
-/

namespace TwoPass

namespace Locale

/-- How well a tag is served. -/
inductive Fit where
  | low
  | high
  | exact
  deriving DecidableEq, Repr

/-- The rank of a fit. -/
def Fit.rank : Fit → Nat
  | low => 1
  | high => 2
  | exact => 3

/-- How a language is served.  The other script is one that its speakers read besides the
    Latin one. -/
structure Service where
  language : Language
  fit : Fit
  otherScript : Option String
  deriving DecidableEq, Repr

/-- The languages whose speakers are served by German. -/
def nearGerman : List String := ["gsw", "lb", "rm"]

/-- The languages whose speakers are served by English, with the scripts of those that have
    another than the Latin one. -/
def nearEnglish : List (String × Option String) :=
  [ ("ach", none), ("ak", none), ("bem", none), ("bn", some "beng"), ("chr", none), ("cy", none),
    ("ee", none), ("eo", none), ("ga", none), ("gaa", none), ("gd", none), ("ha", none),
    ("haw", none), ("ia", none), ("ig", none), ("is", none), ("ka", some "geor"),
    ("km", some "khmr"), ("kn", some "knda"), ("kri", none), ("lg", none), ("lo", some "laoo"),
    ("loz", none), ("mfe", none), ("mi", none), ("ml", some "mlym"), ("mt", none),
    ("my", some "mymr"), ("ne", some "deva"), ("nso", none), ("ny", none), ("nyn", none),
    ("om", none), ("or", some "orya"), ("pa", some "guru"), ("pcm", none), ("ps", some "arab"),
    ("rn", none), ("sd", some "arab"), ("si", some "sinh"), ("sn", none), ("so", none),
    ("sq", none), ("st", none), ("sw", none), ("ta", some "taml"), ("te", some "telu"),
    ("ti", some "ethi"), ("tlh", none), ("tn", none), ("to", none), ("tum", none),
    ("ur", some "arab"), ("xh", none), ("yi", some "hebr"), ("yo", none), ("zu", none) ]

/-- How a language is served, if it is. -/
def service? (language : String) : Option Service :=
  if language = "de" then some ⟨.german, .exact, none⟩
  else if language = "en" then some ⟨.english, .exact, some "beng"⟩
  else if nearGerman.contains language then some ⟨.german, .high, none⟩
  else (nearEnglish.lookup language).map fun script => ⟨.english, .high, script⟩

/-- The code of a message language. -/
def languageCode : Language → String
  | .german => "de"
  | .english => "en"

/-- The region in the tag of the messages in a language. -/
def taggedRegion : Language → Option String
  | .german => none
  | .english => some "us"

/-- The region that the messages in a language are most likely for. -/
def messageRegion : Language → String
  | .german => "de"
  | .english => "us"

/-- The regions that write English as in the United States. -/
def americanRegions : List String := ["as", "ca", "gu", "mh", "mp", "ph", "pr", "um", "us", "vi"]

/-- A wanted tag with what is known about it. -/
structure Wanted where
  tag : Tag
  complete : Complete
  service : Service
  deriving DecidableEq, Repr

/-- A wanted tag, unless nothing is known about it or it is not served. -/
def wanted? (tag : Tag) : Option Wanted :=
  if tag.language.isNone && tag.script.isNone && tag.region.isNone then none
  else (service? tag.complete.language).map fun s => ⟨tag, tag.complete, s⟩

namespace Wanted

/-- Whether a tag says the same about script, region and variants as that of the messages. -/
def saysTheSame (w : Wanted) : Bool :=
  w.tag.script.isNone && w.tag.region == taggedRegion w.service.language && w.tag.variants.isEmpty

/-- How well a tag is served, behind a best fit so far. -/
def fit? (w : Wanted) (best : Nat) : Option Fit :=
  if w.saysTheSame then some w.service.fit
  else if w.complete.script != some latin then
    if best ≤ Fit.low.rank && w.service.otherScript == w.complete.script then some .low else none
  else if w.complete.region != some (messageRegion w.service.language) then
    if w.service.fit = .exact then some .high else some w.service.fit
  else some w.service.fit

/-- Whether a tag names the language of the messages. -/
def namesLanguage (w : Wanted) : Bool := w.tag.language == some (languageCode w.service.language)

/-- Whether a tag names the region of the messages. -/
def namesRegion (w : Wanted) : Bool :=
  w.tag.region.isSome && w.tag.region == taggedRegion w.service.language

/-- Whether a tag is for English. -/
def isEnglish (w : Wanted) : Bool := w.tag.language == some "en"

/-- How far the region of a tag is from that of the messages. -/
def distance (w : Wanted) : Nat :=
  if w.isEnglish && !w.complete.region.any americanRegions.contains then 5 else 4

end Wanted

/-- The best of the wanted tags so far.  When the language is pinned no tag for another
    language can take its place. -/
structure Search where
  best : Option (Wanted × Fit)
  isPinned : Bool
  deriving DecidableEq, Repr

namespace Search

/-- A search at its start. -/
def start : Search := ⟨none, false⟩

/-- The rank of the best fit so far. -/
def rank (s : Search) : Nat := (s.best.map fun b => b.2.rank).getD 0

/-- Whether a tag takes the place of another that is served as well. -/
def isCloser (new old : Wanted) : Bool :=
  if new.namesLanguage != old.namesLanguage then new.namesLanguage
  else if new.namesRegion != old.namesRegion then new.namesRegion
  else new.distance < old.distance

/-- Whether a tag with its fit takes the place of the best one. -/
def isBetter (s : Search) (w : Wanted) (fit : Fit) : Bool :=
  match s.best with
  | none => true
  | some (old, oldFit) => oldFit.rank < fit.rank || (oldFit = fit && isCloser w old)

/-- The search behind one more tag. -/
def next (s : Search) (w : Wanted) (pin : Bool) : Search :=
  let isBlocked := s.isPinned && s.best.any fun b => b.1.tag.language != w.tag.language
  if w.service.fit.rank < s.rank || isBlocked then s
  else
    let isPinned :=
      if w.service.fit = .exact && w.complete.script == some latin then pin else s.isPinned
    match w.fit? s.rank with
    | none => { s with isPinned }
    | some fit => if s.isBetter w fit then ⟨some (w, fit), isPinned⟩ else { s with isPinned }

/-- The search through tags, up to the first that is served exactly. -/
def run (s : Search) : List Tag → Search
  | [] => s
  | tag :: rest =>
    match wanted? tag with
    | none => run s rest
    | some w =>
      let after := s.next w (rest.all fun t => t.language != tag.language)
      if after.rank = Fit.exact.rank then after else run after rest

end Search

/-- The message language for tags in order of preference, and the tag that it was chosen
    for. -/
def best? (tags : List Tag) : Option (Language × Tag) :=
  (Search.start.run tags).best.map fun b => (b.1.service.language, b.1.tag)

end Locale

end TwoPass
