import ShellFailure.Proofs.Boundary
import ShellFailure.Proofs.Frame
import ShellFailure.Proofs.Style
import ShellFailure.Proofs.Text.Numeral
import ShellFailure.Report

/-!
# Reports without colour

A reporter that is not to colour draws in colour and takes the styles out.  When nothing that it
draws brings an escape character of its own, what is left is what it draws with no styles at all,
character for character (`render_eq_plain`).  The proof follows the drawing: `StripsTo` relates a
text to what is left of it in front of any other text, so it goes through the parts of a report
one by one.

When something does bring escape characters, a style may be left, exactly where the drawing has a
style that others interrupt (`style_left_iff_interrupted`).
-/

namespace ShellFailure

open Text

/-! ## Texts that lose their styles -/

/-- In front of any text, taking the styles out of the first text leaves the second one. -/
def StripsTo (styled plain : String) : Prop :=
  ∀ rest, stripStyles (styled.toList ++ rest) = plain.toList ++ stripStyles rest

namespace StripsTo

variable {a b a' b' : String}

theorem stripStyles_eq (h : StripsTo a b) : stripStyles a.toList = b.toList := by
  simpa using h []

theorem append (h : StripsTo a b) (h' : StripsTo a' b') : StripsTo (a ++ a') (b ++ b') := by
  intro rest
  rw [String.toList_append, List.append_assoc, h, h', String.toList_append, List.append_assoc]

/-- A text without escape characters stays. -/
theorem of_escape_notMem (h : '\x1b' ∉ a.toList) : StripsTo a a := fun _ => stripStyles_append h

theorem of_isStyle (h : IsStyle a.toList) : StripsTo a "" := fun _ => h.stripStyles_append

theorem empty : StripsTo "" "" := fun _ => rfl

theorem join {α : Type} {f g : α → String} {xs : List α} (h : ∀ x ∈ xs, StripsTo (f x) (g x)) :
    StripsTo (String.join (xs.map f)) (String.join (xs.map g)) := by
  induction xs with
  | nil => exact empty
  | cons x xs ih =>
      obtain ⟨hx, hxs⟩ := List.forall_mem_cons.1 h
      rw [List.map_cons, List.map_cons, String.join_cons, String.join_cons]
      exact hx.append (ih hxs)

end StripsTo

/-! ## Palettes -/

/-- Nothing is left of the styles of the palette. -/
structure Palette.Fades (p : Palette) : Prop where
  error : StripsTo p.error ""
  warning : StripsTo p.warning ""
  culprit : StripsTo p.culprit ""
  reset : StripsTo p.reset ""

namespace Palette

theorem fades_plain : plain.Fades := ⟨.empty, .empty, .empty, .empty⟩

theorem fades_standard : standard.Fades where
  error := .of_isStyle ⟨"31;1".toList, List.all_eq_true.1 (by decide), rfl⟩
  warning := .of_isStyle ⟨"33;1".toList, List.all_eq_true.1 (by decide), rfl⟩
  culprit := .of_isStyle ⟨"1;4".toList, List.all_eq_true.1 (by decide), rfl⟩
  reset := .of_isStyle ⟨[], List.all_eq_true.1 (by decide), rfl⟩

/-- Only the text is left of a text in a style. -/
theorem Fades.paint {p : Palette} (hp : p.Fades) {style text : String} (hstyle : StripsTo style "")
    (htext : '\x1b' ∉ text.toList) : StripsTo (p.paint style text) (plain.paint "" text) :=
  (hstyle.append (.of_escape_notMem htext)).append hp.reset

end Palette

/-! ## Frames -/

theorem escape_notMem_decimal (n : Nat) : '\x1b' ∉ (decimal n).toList := by
  intro h
  have hdigit := isDigit_of_mem_decimal h
  revert hdigit
  decide

theorem stripsTo_decimal (n : Nat) : StripsTo (decimal n) (decimal n) :=
  .of_escape_notMem (escape_notMem_decimal n)

/-- Neither the name nor the source of the frame has an escape character. -/
structure Frame.EscapeFree (f : Frame) : Prop where
  name : '\x1b' ∉ f.name.toList
  source : ∀ region, f.region = some region → '\x1b' ∉ region.source.toList

namespace Region.Parts

variable {parts : Parts}

theorem escape_notMem_lead (h : '\x1b' ∉ parts.before) : '\x1b' ∉ parts.lead := by
  intro hmem
  exact h (List.mem_reverse.1 (List.takeWhile_subset _ (List.mem_reverse.1 hmem)))

theorem escape_notMem_trail (h : '\x1b' ∉ parts.after) : '\x1b' ∉ parts.trail :=
  fun hmem => h (List.takeWhile_subset _ hmem)

theorem stripsTo_lines (parts : Parts) : StripsTo parts.lines parts.lines := by
  unfold lines
  split
  · exact stripsTo_decimal _
  · exact ((stripsTo_decimal _).append (.of_escape_notMem (by decide))).append (stripsTo_decimal _)

end Region.Parts

theorem stripsTo_indentLines {indent : String} {cs : List Char} (hindent : '\x1b' ∉ indent.toList)
    (hcs : '\x1b' ∉ cs) : StripsTo (indentLines indent cs) (indentLines indent cs) := by
  refine StripsTo.join fun c hc => ?_
  split
  · exact (StripsTo.of_escape_notMem (by decide)).append (.of_escape_notMem hindent)
  · refine .of_escape_notMem fun hmem => hcs ?_
    rw [String.toList_singleton, List.mem_singleton] at hmem
    rwa [hmem]

/-- Only the text is left of the culprit's lines. -/
theorem Palette.Fades.body {p : Palette} (hp : p.Fades) {indent : String}
    (hindent : '\x1b' ∉ indent.toList) {parts : Region.Parts} (hbefore : '\x1b' ∉ parts.before)
    (hculprit : '\x1b' ∉ parts.culprit) (hafter : '\x1b' ∉ parts.after) :
    StripsTo (parts.body p indent) (parts.body .plain indent) := by
  have hofList {cs : List Char} (h : '\x1b' ∉ cs) :
      StripsTo (String.ofList cs) (String.ofList cs) :=
    .of_escape_notMem (by rwa [String.toList_ofList])
  have hmarked : StripsTo (if parts.culprit = [] then "^" else indentLines indent parts.culprit)
      (if parts.culprit = [] then "^" else indentLines indent parts.culprit) := by
    split
    · exact .of_escape_notMem (by decide)
    · exact stripsTo_indentLines hindent hculprit
  have hnewline : StripsTo "\n" "\n" := .of_escape_notMem (by decide)
  exact (((((hnewline.append (.of_escape_notMem hindent)).append
    (hofList (Region.Parts.escape_notMem_lead hbefore))).append hp.culprit).append
    hmarked).append hp.reset).append (hofList (Region.Parts.escape_notMem_trail hafter))

/-- Only the text is left of a frame. -/
theorem Palette.Fades.frame {p : Palette} (hp : p.Fades) {indent : String}
    (hindent : '\x1b' ∉ indent.toList) {f : Frame} (hf : f.EscapeFree) :
    StripsTo (f.pretty p indent) (f.pretty .plain indent) := by
  obtain ⟨name, region⟩ := f
  have hname : StripsTo name name := .of_escape_notMem hf.name
  cases region with
  | none => exact hname.append (.of_escape_notMem (by decide))
  | some region =>
      unfold Frame.pretty
      cases hparts : region.parts? with
      | none =>
          simp only [hparts]
          exact (((hname.append (.of_escape_notMem (by decide))).append
            (stripsTo_decimal _)).append (.of_escape_notMem (by decide))).append
            (stripsTo_decimal _)
      | some parts =>
          simp only [hparts]
          have hsource := hf.source region rfl
          rw [(Region.parts?_eq_some_iff.1 hparts).1] at hsource
          simp only [List.mem_append, not_or] at hsource
          obtain ⟨⟨hbefore, hculprit⟩, hafter⟩ := hsource
          exact (((hname.append (.of_escape_notMem (by decide))).append
            parts.stripsTo_lines).append (.of_escape_notMem (by decide))).append
            (hp.body hindent hbefore hculprit hafter)

/-! ## Exceptions -/

/-- Nothing that is drawn of the exception has an escape character: neither what it says, nor how
it shows itself if it does, nor the frames that it passed through. -/
structure Exception.EscapeFree (e : Exception) : Prop where
  message : '\x1b' ∉ e.message.toList
  own : ∀ external t shown, e = .raised (.external external) t → external.pretty = some shown →
    '\x1b' ∉ shown.toList
  frames : ∀ frame ∈ e.traceback.toList, frame.EscapeFree

theorem Palette.Fades.cause {p : Palette} (hp : p.Fades) {cause : Cause}
    (htext : '\x1b' ∉ cause.text.toList)
    (hown : ∀ external shown, cause = .external external → external.pretty = some shown →
      '\x1b' ∉ shown.toList) : StripsTo (cause.pretty p) (cause.pretty .plain) := by
  cases cause with
  | message text => exact hp.paint hp.error htext
  | flow f => exact hp.paint hp.warning htext
  | exit exit => exact hp.paint hp.error htext
  | external external =>
      unfold Cause.pretty
      cases hpretty : external.pretty with
      | none =>
          simp only [hpretty]
          exact hp.paint hp.error htext
      | some shown =>
          simp only [hpretty]
          exact .of_escape_notMem (hown external shown rfl hpretty)

/-- Only the text is left of a header. -/
theorem Palette.Fades.header {p : Palette} (hp : p.Fades) {e : Exception} (he : e.EscapeFree) :
    StripsTo (e.header p) (e.header .plain) := by
  have hlead : StripsTo "Exception: " "Exception: " := .of_escape_notMem (by decide)
  cases e with
  | succeeded t =>
      have hok : '\x1b' ∉ "ok".toList := by decide
      exact .of_escape_notMem hok
  | raised cause t =>
      have htext := he.message
      rw [Exception.message] at htext
      refine hlead.append (hp.cause htext fun external shown hcause => ?_)
      exact he.own external t shown (by rw [hcause])
  | several slots t => exact hlead.append (hp.paint hp.error he.message)

/-- Only the text is left of an exception with its traceback. -/
theorem Palette.Fades.pretty {p : Palette} (hp : p.Fades) {e : Exception} (he : e.EscapeFree) :
    StripsTo (e.pretty p) (e.pretty .plain) := by
  unfold Exception.pretty
  split
  · exact .of_escape_notMem (by decide)
  · refine ((hp.header he).append (.of_escape_notMem (by decide))).append ?_
    refine StripsTo.join fun frame hframe => ?_
    exact (StripsTo.of_escape_notMem (by decide)).append
      (hp.frame (by decide) (he.frames frame hframe))

/-! ## Reports -/

namespace Reporter

/-- What a reporter draws of an exception before it presents it. -/
def drawing (r : Reporter) (p : Palette) (e : Exception) : String :=
  if r.traceback then e.pretty p else e.header p

/-- What is shown is the drawing of the exception as it is presented. -/
theorem eq_present_of_renderWith {r : Reporter} {p : Palette} {e : Exception} {shown : String}
    (h : r.renderWith p e = some shown) : shown = r.present (r.drawing p e) := by
  obtain ⟨e', htop, rfl⟩ := Option.map_eq_some_iff.1 h
  rw [Exception.eq_of_topLevel htop]
  rfl

/-- Without colour, a drawing loses what its palette added and nothing else. -/
theorem renderWith_of_fades {r : Reporter} (hr : r.colored = false) {p : Palette} (hp : p.Fades)
    {e : Exception} (he : e.EscapeFree) :
    r.renderWith p e = (topLevel r.escapedFlow e).map (r.drawing .plain) := by
  have hdrawing : StripsTo (r.drawing p e) (r.drawing .plain e) := by
    unfold drawing
    split
    · exact hp.pretty he
    · exact hp.header he
  have hpresent : r.present (r.drawing p e) = r.drawing .plain e := by
    rw [present, hr, if_neg Bool.false_ne_true, hdrawing.stripStyles_eq, String.ofList_toList]
  cases hshown : r.renderWith p e with
  | none => rw [Option.map_eq_none_iff.1 hshown, Option.map_none]
  | some shown =>
      have htop : topLevel r.escapedFlow e = some e := by
        obtain ⟨e', htop, -⟩ := Option.map_eq_some_iff.1 hshown
        rw [htop, Exception.eq_of_topLevel htop]
      rw [htop, Option.map_some, eq_present_of_renderWith hshown, hpresent]

end Reporter

/-! ## Main results -/

/-- **Colour is only decoration.**  Take settings that want no colour, and an exception of which
nothing drawn has an escape character.  What is shown of it is what is shown when every style is
empty, and this is the drawing without styles as it is: nothing that it says, no name, number,
indent or line of source loses a character. -/
theorem render_eq_plain {s : Settings} (hcolor : s.color = .never) (terminal : Bool)
    {e : Exception} (he : e.EscapeFree) :
    (Reporter.ofSettings s terminal).render e =
      (Reporter.ofSettings s terminal).renderWith .plain e ∧
    (Reporter.ofSettings s terminal).render e =
      (topLevel s.escapedFlow e).map ((Reporter.ofSettings s terminal).drawing .plain) := by
  have hr : (Reporter.ofSettings s terminal).colored = false := by
    rw [Reporter.ofSettings, hcolor]
  have hstandard := Reporter.renderWith_of_fades hr Palette.fades_standard he
  have hplain := Reporter.renderWith_of_fades hr Palette.fades_plain he
  exact ⟨hstandard.trans hplain.symm, hstandard⟩

/-- A failure whose words and source look like the insides of styles. -/
def styleLike : Exception :=
  (Exception.ofMessage "[31m;1m").unwoundThrough ⟨"m[tty]", some ⟨"1;4m [0m\n;m", 2, 9⟩⟩

theorem escapeFree_styleLike : styleLike.EscapeFree where
  message := by
    rw [styleLike, Exception.unwoundThrough, Exception.ofMessage, Exception.ofCause,
      Exception.withTraceback, Exception.message]
    decide
  own external t shown h := nomatch h
  frames frame hframe := by
    obtain rfl := List.mem_singleton.1 hframe
    exact ⟨by decide, fun region hregion => by cases hregion; decide⟩

theorem render_eq_plain_styleLike :
    styleLike.EscapeFree ∧
    (Reporter.ofSettings ⟨.never, .absorb, true⟩ true).render styleLike =
      (Reporter.ofSettings ⟨.never, .absorb, true⟩ true).renderWith .plain styleLike ∧
    (Reporter.ofSettings ⟨.never, .absorb, true⟩ true).render styleLike =
      some "Exception: [31m;1m\nTraceback:\n  m[tty], line 1-2:\n    1;4m [0m\n    ;m" := by
  obtain ⟨hplain, hdrawing⟩ :=
    render_eq_plain (s := ⟨.never, .absorb, true⟩) rfl true escapeFree_styleLike
  exact ⟨escapeFree_styleLike, hplain, hdrawing.trans (by decide +kernel)⟩

/-- **A style is left exactly where others interrupt it.**  In any text, what is left when the
styles are taken out has no style exactly when no style in the text had others inside it, and
otherwise taking styles out a second time takes out more.  So it is with what is presented and
shown without colour: it has no style exactly when no style in the text, or in the drawing of the
exception, is interrupted. -/
theorem style_left_iff_interrupted (text : String) {s : Settings} (hcolor : s.color = .never)
    (terminal : Bool) (e : Exception) :
    (HasStyle (stripStyles text.toList) ↔ HasInterruptedStyle text.toList) ∧
    (stripStyles (stripStyles text.toList) = stripStyles text.toList ↔
      ¬ HasInterruptedStyle text.toList) ∧
    (HasStyle ((Reporter.ofSettings s terminal).present text).toList ↔
      HasInterruptedStyle text.toList) ∧
    ∀ shown : String, (Reporter.ofSettings s terminal).render e = some shown →
      (HasStyle shown.toList ↔
        HasInterruptedStyle ((Reporter.ofSettings s terminal).drawing .standard e).toList) := by
  have hpresent (text : String) :
      HasStyle ((Reporter.ofSettings s terminal).present text).toList ↔
        HasInterruptedStyle text.toList := by
    have htext : (Reporter.ofSettings s terminal).present text =
        String.ofList (stripStyles text.toList) := by
      rw [Reporter.present, Reporter.ofSettings, hcolor]
      rfl
    rw [htext, String.toList_ofList, hasStyle_stripStyles_iff]
  refine ⟨hasStyle_stripStyles_iff, ?_, hpresent text, fun shown hshown => ?_⟩
  · rw [stripStyles_eq_self_iff, hasStyle_stripStyles_iff]
  · rw [Reporter.eq_present_of_renderWith hshown, hpresent]

/-- A reset inside a reset, in the middle of a message. -/
theorem style_left_iff_interrupted_reset :
    (Reporter.ofSettings ⟨.never, .report, false⟩ true).render (.ofMessage "a\x1b[\x1b[mmb") =
      some "Exception: a\x1b[mb" ∧
    HasInterruptedStyle ((Reporter.ofSettings ⟨.never, .report, false⟩ true).drawing .standard
      (.ofMessage "a\x1b[\x1b[mmb")).toList ∧
    HasInterruptedStyle "a\x1b[\x1b[mmb".toList := by
  have hshown : (Reporter.ofSettings ⟨.never, .report, false⟩ true).render
      (.ofMessage "a\x1b[\x1b[mmb") = some "Exception: a\x1b[mb" := by
    decide +kernel
  have hpresented : (Reporter.ofSettings ⟨.never, .report, false⟩ true).present
      "a\x1b[\x1b[mmb" = "a\x1b[mb" := by
    decide +kernel
  have hreset : IsStyle "\x1b[m".toList := ⟨[], by simp, rfl⟩
  obtain ⟨-, -, hpresent, hrender⟩ := style_left_iff_interrupted "a\x1b[\x1b[mmb"
    (s := ⟨.never, .report, false⟩) rfl true (.ofMessage "a\x1b[\x1b[mmb")
  refine ⟨hshown, (hrender _ hshown).1 ?_, hpresent.1 ?_⟩
  · exact ⟨_, hreset, "Exception: a".toList, "b".toList, rfl⟩
  · rw [hpresented]
    exact ⟨_, hreset, "a".toList, "b".toList, rfl⟩

/-- Taking styles out is not idempotent, and a report without colour may have a style: a colour
that another style interrupts comes into being. -/
theorem stripStyles_not_idem :
    stripStyles "\x1b[3\x1b[m1mred".toList = "\x1b[31mred".toList ∧
    HasStyle "\x1b[31mred".toList ∧
    stripStyles (stripStyles "\x1b[3\x1b[m1mred".toList) ≠
      stripStyles "\x1b[3\x1b[m1mred".toList ∧
    (Reporter.ofSettings ⟨.never, .report, false⟩ true).render
      (.ofMessage "\x1b[3\x1b[m1mred") = some "Exception: \x1b[31mred" := by
  have hstyle : IsStyle "\x1b[31m".toList := ⟨"31".toList, List.all_eq_true.1 (by decide), rfl⟩
  exact ⟨by decide +kernel, ⟨_, hstyle, [], "red".toList, rfl⟩, by decide +kernel,
    by decide +kernel⟩

end ShellFailure
