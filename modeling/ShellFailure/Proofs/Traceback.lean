import Mathlib.Data.List.Basic
import ShellFailure.Traceback

/-!
# Growing chains

A chain grows at its inner end when a frame is entered and at its outer end when a failure unwinds
through one.  In the list of its frames the two ends are apart, so however the two ways of growing
alternate, the frames that were entered stand in front, the last one first, and those that were
unwound through stand behind in order (`grownBy_eq`).

Chains share their frames in memory: a chain is the place of a node, and a node links to the place
of the next one (`Linked`).  Growth only makes new nodes.  The memory before it is a suffix of the
memory after it (`Linked.nodes_suffix_growAll`), and what is reached from a place does not change
(`framesAt_of_suffix`).  So every chain on the way lists what it listed when it was made, also where
it shares nodes with the chains that were grown from it: `growth_keeps_order`.
-/

namespace ShellFailure.Traceback

/-! ## What growth does to a list -/

/-- One more frame for a chain. -/
inductive Growth
  /-- The frame is entered, inside of all others. -/
  | enter (frame : Frame)
  /-- A failure unwinds through the frame, outside of all others. -/
  | pushOuter (frame : Frame)
  deriving DecidableEq, Repr

/-- The frame, if it is entered. -/
def Growth.entered? : Growth → Option Frame
  | enter frame => some frame
  | pushOuter _ => none

/-- The frame, if it is unwound through. -/
def Growth.pushed? : Growth → Option Frame
  | enter _ => none
  | pushOuter frame => some frame

/-- The frames with one more. -/
def grownOnce (frames : List Frame) : Growth → List Frame
  | .enter frame => frame :: frames
  | .pushOuter frame => frames ++ [frame]

/-- The frames with those of some growths around them: the entered ones in reverse order before
them, and the others in order behind them. -/
def grownBy (frames : List Frame) (gs : List Growth) : List Frame :=
  (gs.filterMap Growth.entered?).reverse ++ frames ++ gs.filterMap Growth.pushed?

@[simp] theorem grownBy_nil (frames : List Frame) : grownBy frames [] = frames := by
  simp [grownBy]

/-- One growth grows the frames in the middle, whatever comes around them later. -/
theorem grownBy_cons (frames : List Frame) (g : Growth) (gs : List Growth) :
    grownBy frames (g :: gs) = grownBy (grownOnce frames g) gs := by
  cases g with
  | enter frame =>
      simp [grownBy, grownOnce, List.filterMap_cons, Growth.entered?, Growth.pushed?]
  | pushOuter frame =>
      simp [grownBy, grownOnce, List.filterMap_cons, Growth.entered?, Growth.pushed?]

theorem foldl_grownOnce (gs : List Growth) :
    ∀ frames : List Frame, gs.foldl grownOnce frames = grownBy frames gs := by
  induction gs with
  | nil => intro frames; simp
  | cons g gs ih => intro frames; rw [List.foldl_cons, ih, grownBy_cons]

/-! ## What growth does to a chain -/

/-- The chain with one more frame. -/
def grow (t : Traceback) : Growth → Traceback
  | .enter frame => enter frame t
  | .pushOuter frame => t.pushOuter frame

/-- The chain after some growths. -/
def growAll (t : Traceback) (gs : List Growth) : Traceback := gs.foldl grow t

theorem toList_grow (t : Traceback) (g : Growth) : (t.grow g).toList = grownOnce t.toList g := by
  cases g with
  | enter frame => rfl
  | pushOuter frame => exact t.toList_pushOuter frame

theorem toList_growAll (t : Traceback) (gs : List Growth) :
    (t.growAll gs).toList = grownBy t.toList gs := by
  rw [growAll, ← foldl_grownOnce]
  exact (List.foldl_hom toList (fun t g => (toList_grow t g).symm)).symm

theorem isEmpty_eq (t : Traceback) : t.isEmpty = t.toList.isEmpty := by
  cases t with
  | empty => rfl
  | enter frame callers => rfl

theorem innermost?_eq (t : Traceback) : t.innermost? = t.toList.head? := by
  cases t with
  | empty => rfl
  | enter frame callers => rfl

/-! ## Chains in memory -/

/-- A node in memory: a frame, and the place of the node with the next outer one, if any. -/
structure Node where
  frame : Frame
  next : Option Nat

/-- The frames that are reached from a place in memory.  The memory is the nodes made so far, the
newest first; the place of a node is the number of the nodes that are older. -/
def framesAt : List Node → Option Nat → List Frame
  | _, none => []
  | [], some _ => []
  | node :: older, some place =>
      if place = older.length then node.frame :: framesAt older node.next
      else framesAt older (some place)

/-- A chain in memory: the nodes made so far, and the place of its innermost frame, if any. -/
structure Linked where
  nodes : List Node
  head : Option Nat
  /-- There is a node at the place. -/
  placed : ∀ place ∈ head, place < nodes.length

namespace Linked

/-- The frames of the chain, innermost first. -/
def frames (c : Linked) : List Frame := framesAt c.nodes c.head

/-- A node is made for a frame that is entered. -/
def enter (c : Linked) (frame : Frame) : Linked where
  nodes := ⟨frame, c.head⟩ :: c.nodes
  head := some c.nodes.length
  placed place hplace := by
    cases hplace
    exact Nat.lt_succ_self _

/-- The empty chain in a memory. -/
def empty (nodes : List Node) : Linked where
  nodes := nodes
  head := none
  placed place hplace := by cases hplace

/-- A chain of some frames is built from the outermost inwards. -/
def ofFrames (nodes : List Node) (frames : List Frame) : Linked :=
  frames.reverse.foldl enter (empty nodes)

/-- All nodes of a chain are made anew when there is a frame outside of them. -/
def pushOuter (c : Linked) (frame : Frame) : Linked := ofFrames c.nodes (c.frames ++ [frame])

/-- The chain with one more frame. -/
def grow (c : Linked) : Growth → Linked
  | .enter frame => c.enter frame
  | .pushOuter frame => c.pushOuter frame

/-- The chain after some growths. -/
def growAll (c : Linked) (gs : List Growth) : Linked := gs.foldl grow c

/-! ### What a chain in memory lists -/

theorem frames_enter (c : Linked) (frame : Frame) :
    (c.enter frame).frames = frame :: c.frames := by
  rw [frames, enter, framesAt, if_pos rfl, frames]

theorem frames_empty (nodes : List Node) : (empty nodes).frames = [] := by
  rw [frames, empty, framesAt]

theorem frames_foldl_enter (outward : List Frame) :
    ∀ c : Linked, (outward.foldl enter c).frames = outward.reverse ++ c.frames := by
  induction outward with
  | nil => intro c; rfl
  | cons frame outward ih =>
      intro c
      rw [List.foldl_cons, ih, frames_enter, List.reverse_cons, List.append_assoc,
        List.singleton_append]

theorem frames_ofFrames (nodes : List Node) (frames : List Frame) :
    (ofFrames nodes frames).frames = frames := by
  rw [ofFrames, frames_foldl_enter, frames_empty, List.reverse_reverse, List.append_nil]

theorem frames_grow (c : Linked) (g : Growth) : (c.grow g).frames = grownOnce c.frames g := by
  cases g with
  | enter frame => exact c.frames_enter frame
  | pushOuter frame => exact frames_ofFrames c.nodes _

theorem frames_growAll (c : Linked) (gs : List Growth) :
    (c.growAll gs).frames = grownBy c.frames gs := by
  rw [growAll, ← foldl_grownOnce]
  exact (List.foldl_hom frames (fun c g => (frames_grow c g).symm)).symm

/-! ### Nothing in memory changes -/

/-- From the place of a chain the same is reached when there are more nodes. -/
theorem framesAt_of_suffix (c : Linked) {nodes : List Node} (h : c.nodes <:+ nodes) :
    framesAt nodes c.head = c.frames := by
  rw [frames]
  cases hhead : c.head with
  | none => rw [framesAt, framesAt]
  | some place =>
      have hlt : place < c.nodes.length := c.placed place hhead
      -- The place of a newer node is behind all places that were taken, so it is passed over.
      obtain ⟨newer, rfl⟩ := h
      induction newer with
      | nil => rfl
      | cons node newer ih =>
          have hne : place ≠ (newer ++ c.nodes).length := by
            rw [List.length_append]
            omega
          rw [List.cons_append, framesAt, if_neg hne, ih]

theorem nodes_suffix_foldl_enter (outward : List Frame) :
    ∀ c : Linked, c.nodes <:+ (outward.foldl enter c).nodes := by
  induction outward with
  | nil => intro c; exact List.suffix_rfl
  | cons frame outward ih =>
      intro c
      have hmade : c.nodes <:+ (c.enter frame).nodes := List.suffix_cons _ _
      exact hmade.trans (ih (c.enter frame))

theorem nodes_suffix_grow (c : Linked) (g : Growth) : c.nodes <:+ (c.grow g).nodes := by
  cases g with
  | enter frame => exact List.suffix_cons _ _
  | pushOuter frame => exact nodes_suffix_foldl_enter _ (empty c.nodes)

theorem nodes_suffix_growAll (gs : List Growth) :
    ∀ c : Linked, c.nodes <:+ (c.growAll gs).nodes := by
  induction gs with
  | nil => intro c; exact List.suffix_rfl
  | cons g gs ih =>
      intro c
      exact (c.nodes_suffix_grow g).trans (ih (c.grow g))

/-- Growth that goes on only makes more nodes. -/
theorem nodes_growAll_take_suffix (c : Linked) (gs : List Growth) (k : Nat) :
    (c.growAll (gs.take k)).nodes <:+ (c.growAll gs).nodes := by
  have hrest : c.growAll gs = (c.growAll (gs.take k)).growAll (gs.drop k) := by
    rw [growAll, growAll, growAll, ← List.foldl_append, List.take_append_drop]
  rw [hrest]
  exact nodes_suffix_growAll _ _

end Linked

/-! ## Main result -/

/-- **Chains keep the order of their frames.**  However entering and unwinding alternate, a chain
that is made of some frames and grown lists the frames that were entered, the last one first, then
those it was made of, and then those that were unwound through, the last one last.  Its length, its
innermost frame and whether it is empty are those of this list.  In memory, whatever else is there,
each chain on the way lists the same when it is made, and still does after all growths. -/
theorem growth_keeps_order (frames : List Frame) (gs : List Growth) :
    ((ofList frames).growAll gs).toList =
        (gs.filterMap Growth.entered?).reverse ++ frames ++ gs.filterMap Growth.pushed? ∧
      ((ofList frames).growAll gs).length = ((ofList frames).growAll gs).toList.length ∧
      ((ofList frames).growAll gs).isEmpty = ((ofList frames).growAll gs).toList.isEmpty ∧
      ((ofList frames).growAll gs).innermost? = ((ofList frames).growAll gs).toList.head? ∧
      ∀ (nodes : List Node) (k : Nat),
        ((Linked.ofFrames nodes frames).growAll (gs.take k)).frames =
            ((ofList frames).growAll (gs.take k)).toList ∧
          framesAt ((Linked.ofFrames nodes frames).growAll gs).nodes
              ((Linked.ofFrames nodes frames).growAll (gs.take k)).head =
            ((Linked.ofFrames nodes frames).growAll (gs.take k)).frames := by
  have hlist (gs : List Growth) : ((ofList frames).growAll gs).toList = grownBy frames gs := by
    rw [toList_growAll, toList_ofList]
  refine ⟨hlist gs, (length_toList _).symm, isEmpty_eq _, innermost?_eq _, fun nodes k => ⟨?_, ?_⟩⟩
  · rw [Linked.frames_growAll, Linked.frames_ofFrames, hlist]
  · exact Linked.framesAt_of_suffix _ (Linked.nodes_growAll_take_suffix _ gs k)

example (a b c d : Frame) :
    ((ofList [a]).growAll [.pushOuter b, .enter c, .pushOuter d]).toList = [c, a, b, d] := rfl

end ShellFailure.Traceback
