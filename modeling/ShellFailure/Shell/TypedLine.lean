import ShellFailure.Text.Bytes
import ShellFailure.Text.Clusters

/-!
# Typed lines

A line that was typed may hold backspaces.  `typedLine` is the line as it was meant: a backspace
takes away the cluster before it, and does nothing at the beginning of the line.

Of every cluster the number of bytes is kept, in one byte, so that a backspace on a cluster of 256
bytes or more takes away what that byte says (`press_backspace_press` is for the shorter ones).  A
line without a backspace is as it was typed (`applyBackspaces_eq_self`).
-/

namespace ShellFailure.Shell

open Text

/-- What has been typed of a line. -/
structure Typed where
  /-- The characters, the last one first. -/
  text : List Char
  /-- The numbers of bytes of the clusters, the last one first. -/
  sizes : List UInt8
  deriving DecidableEq, Repr

/-- The cluster that takes another one away. -/
def backspace : List Char := ['\x08']

/-- What has been typed after one more cluster. -/
def Typed.press (t : Typed) (cluster : List Char) : Typed :=
  if cluster = backspace then
    match t.sizes with
    | [] => t
    | size :: sizes => ⟨dropBytes size.toNat t.text, sizes⟩
  else ⟨cluster.reverse ++ t.text, (byteLength cluster).toUInt8 :: t.sizes⟩

/-- A line as it was meant. -/
def applyBackspaces (line : List Char) : List Char :=
  ((clusters line).foldl Typed.press ⟨[], []⟩).text.reverse

/-- The line that was typed with some characters. -/
def typedLine (cs : List Char) : String := String.ofList (applyBackspaces cs)

/-- A backspace undoes a cluster of less than 256 bytes. -/
theorem press_backspace_press (t : Typed) {cluster : List Char} (h : cluster ≠ backspace)
    (hsize : byteLength cluster < 256) : (t.press cluster).press backspace = t := by
  have hnat : (byteLength cluster).toUInt8.toNat = byteLength cluster.reverse := by
    rw [byteLength_reverse]
    exact UInt8.toNat_ofNat_of_lt' hsize
  rw [Typed.press, if_pos rfl, Typed.press, if_neg h]
  simp only [hnat, dropBytes_byteLength_append]

theorem text_foldl_press {cs : List (List Char)} (h : backspace ∉ cs) (t : Typed) :
    (cs.foldl Typed.press t).text.reverse = t.text.reverse ++ cs.flatten := by
  induction cs generalizing t with
  | nil => simp
  | cons c cs ih =>
      rw [List.mem_cons, not_or] at h
      rw [List.foldl_cons, ih h.2, Typed.press, if_neg (Ne.symm h.1)]
      simp

/-- A line without a backspace is as it was typed. -/
theorem applyBackspaces_eq_self {line : List Char} (h : '\x08' ∉ line) :
    applyBackspaces line = line := by
  rw [applyBackspaces, text_foldl_press]
  · simp [flatten_clusters]
  · intro hmem
    exact h (flatten_clusters line ▸ List.mem_flatten.2 ⟨backspace, hmem, by simp [backspace]⟩)

end ShellFailure.Shell
