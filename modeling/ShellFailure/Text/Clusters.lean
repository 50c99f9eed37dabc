import ShellFailure.Text.CharClass
import ShellFailure.Text.ClusterBreak

/-!
# Clusters

A cluster is what a reader takes for one character: a letter with its marks, a syllable, a flag,
a pictograph made of several.  The rules are those of the extended grapheme clusters of Unicode.

`joins` tells whether a character belongs to the cluster before it, and `clusters` cuts a text by
it.  The clusters of a text make it up (`flatten_clusters`), and none is empty
(`nil_notMem_clusters`).
-/

namespace ShellFailure.Text

/-! ## Classes -/

/-- What a character is for the clusters. -/
inductive ClusterClass
  | carriageReturn
  | lineFeed
  /-- A control or a format, which stands alone. -/
  | breaking
  /-- A mark or a modifier. -/
  | extender
  /-- The joiner of zero width. -/
  | joiner
  /-- A mark that takes room. -/
  | spacingMark
  /-- A sign that belongs to what is after it. -/
  | prepended
  /-- A letter that opens a Hangul syllable. -/
  | leading
  /-- A vowel in a Hangul syllable. -/
  | vowel
  /-- A letter that closes a Hangul syllable. -/
  | trailing
  /-- A Hangul syllable that is not closed. -/
  | openSyllable
  /-- A Hangul syllable that is closed. -/
  | closedSyllable
  /-- A regional indicator: two of them make a flag. -/
  | regional
  | pictograph
  /-- A consonant that a linker may join to the one before it. -/
  | consonant
  | other
  deriving DecidableEq, Repr

/-- The code points of letters that open a Hangul syllable. -/
def leadingRanges : List (Nat × Nat) := [(0x1100, 0x115f), (0xa960, 0xa97c)]

/-- The code points of vowels in a syllable. -/
def vowelRanges : List (Nat × Nat) :=
  [(0x1160, 0x11a7), (0xd7b0, 0xd7c6), (0x16d63, 0x16d63), (0x16d67, 0x16d6a)]

/-- The code points of letters that close a Hangul syllable. -/
def trailingRanges : List (Nat × Nat) := [(0x11a8, 0x11ff), (0xd7cb, 0xd7fb)]

/-- The code points of Hangul syllables: of every twenty-eight, the first is not closed. -/
def syllableRanges : List (Nat × Nat) := [(0xac00, 0xd7a3)]

/-- The code points of regional indicators. -/
def regionalRanges : List (Nat × Nat) := [(0x1f1e6, 0x1f1ff)]

/-- What a character is for the clusters. -/
def ClusterClass.of (c : Char) : ClusterClass :=
  if c = '\r' then carriageReturn
  else if c = '\n' then lineFeed
  else if c = '\u200d' then joiner
  else if inRanges breakingRanges c then breaking
  else if inRanges extenderRanges c then extender
  else if inRanges spacingMarkRanges c then spacingMark
  else if inRanges prependedRanges c then prepended
  else if inRanges leadingRanges c then leading
  else if inRanges vowelRanges c then vowel
  else if inRanges trailingRanges c then trailing
  else if inRanges syllableRanges c then
    if (c.toNat - 0xac00) % 28 = 0 then openSyllable else closedSyllable
  else if inRanges regionalRanges c then regional
  else if inRanges pictographRanges c then pictograph
  else if inRanges conjunctConsonantRanges c then consonant
  else other

/-- Does the character stand alone, whatever is around it? -/
def ClusterClass.isAlone : ClusterClass → Bool
  | carriageReturn | lineFeed | breaking => true
  | _ => false

/-- May the character stand between a consonant and the consonant that is joined to it?  The
extenders and the joiner may, but for the one that keeps letters apart. -/
def isConjunctMark (c : Char) : Bool :=
  match ClusterClass.of c with
  | .extender => c ≠ '\u200c'
  | .joiner => true
  | _ => false

/-! ## Where clusters end -/

/-- Is there, before a joiner, a pictograph with its extenders?  The last character comes first. -/
def endsInPictograph (before : List Char) : Bool :=
  (before.dropWhile (ClusterClass.of · = .extender)).head?.any (ClusterClass.of · = .pictograph)

/-- Is there a consonant with a linker after it?  The last character comes first. -/
def endsInLinkedConsonant (before : List Char) : Bool :=
  (before.takeWhile isConjunctMark).any (inRanges linkerRanges) &&
    (before.dropWhile isConjunctMark).head?.any (ClusterClass.of · = .consonant)

/-- Is the last regional indicator still without its second?  The last character comes first. -/
def endsInHalfFlag (before : List Char) : Bool :=
  (before.takeWhile (ClusterClass.of · = .regional)).length % 2 = 1

/-- Does a character belong to the cluster before it, whose last character comes first? -/
def joins (before : List Char) (c : Char) : Bool :=
  match before with
  | [] => false
  | b :: earlier =>
    match ClusterClass.of b, ClusterClass.of c with
    | .carriageReturn, .lineFeed => true
    | last, next =>
      if last.isAlone || next.isAlone then false
      else
        match last, next with
        | .leading, .leading | .leading, .vowel => true
        | .leading, .openSyllable | .leading, .closedSyllable => true
        | .openSyllable, .vowel | .openSyllable, .trailing => true
        | .vowel, .vowel | .vowel, .trailing => true
        | .closedSyllable, .trailing | .trailing, .trailing => true
        | _, .extender | _, .joiner | _, .spacingMark => true
        | .prepended, _ => true
        | _, .consonant => endsInLinkedConsonant before
        | .joiner, .pictograph => endsInPictograph earlier
        | .regional, .regional => endsInHalfFlag before
        | _, _ => false

/-- The clusters of a text that goes on after the beginning of a cluster, whose last character
comes first. -/
def clustersAfter (before : List Char) : List Char → List (List Char)
  | [] => [before.reverse]
  | c :: cs =>
      if joins before c then clustersAfter (c :: before) cs
      else before.reverse :: clustersAfter [c] cs

/-- The clusters of a text. -/
def clusters : List Char → List (List Char)
  | [] => []
  | c :: cs => clustersAfter [c] cs

theorem flatten_clustersAfter (before cs : List Char) :
    (clustersAfter before cs).flatten = before.reverse ++ cs := by
  induction cs generalizing before with
  | nil => simp [clustersAfter]
  | cons c cs ih =>
      rw [clustersAfter]
      split <;> simp [ih]

/-- The clusters of a text make it up. -/
theorem flatten_clusters (cs : List Char) : (clusters cs).flatten = cs := by
  cases cs with
  | nil => rfl
  | cons c cs => simp [clusters, flatten_clustersAfter]

theorem nil_notMem_clustersAfter {before : List Char} (h : before ≠ []) (cs : List Char) :
    [] ∉ clustersAfter before cs := by
  induction cs generalizing before with
  | nil => simpa [clustersAfter] using h.symm
  | cons c cs ih =>
      rw [clustersAfter]
      split
      · exact ih (by simp)
      · simpa using ⟨h, ih (by simp)⟩

/-- No cluster is empty. -/
theorem nil_notMem_clusters (cs : List Char) : [] ∉ clusters cs := by
  cases cs with
  | nil => simp [clusters]
  | cons c cs => exact nil_notMem_clustersAfter (by simp) cs

end ShellFailure.Text
