import Flowchart.Clean.Label
import Flowchart.Proofs.Lines
import Flowchart.Proofs.LowerCase

/-!
# Fenced texts

A fence is put around a body on lines of its own.  Taken off again it leaves the body,
whatever fences and backticks that holds.  The opening line ends at the first line feed
behind the language, since the blanks in front of the body hold no other one, so the body
keeps its indent.  The closing line is the last one: behind any earlier line of backticks
the closing line itself is still to come, and that is not blank.

Main statement: `stripFences_fenced`.
-/

namespace Flowchart

/-- The three backticks of a fence. -/
def fenceMark : Text :=
  [backtick, backtick, backtick]

/-- The body on lines of its own inside a fence, with blanks around the fence. -/
def fenced (before language body behind : Text) : Text :=
  before ++ (fenceMark ++ (language ++ '\n' :: (body ++ '\n' :: (fenceMark ++ behind))))

/-- The first line of the text is not blank. -/
def BeginsFilled (text : Text) : Prop :=
  ∃ line, (splitLines text).head? = some line ∧ ¬ Blanks line

/-- A backtick is not blank. -/
theorem isBlank_backtick : isBlank backtick = false := by decide

/-! ## The closing line -/

/-- A closing line is made of backticks and blanks. -/
theorem exists_of_isFenceEnd {text : Text} (h : isFenceEnd text = true) :
    ∃ marks blanks, text = marks ++ blanks ∧ (∀ c ∈ marks, c = backtick) ∧ Blanks blanks := by
  match text, h with
  | first :: second :: rest, h =>
      simp only [isFenceEnd, Bool.and_eq_true, decide_eq_true_eq, List.all_eq_true] at h
      obtain ⟨⟨rfl, rfl⟩, hrest⟩ := h
      split at hrest
      · next hthird =>
          obtain ⟨more, rfl⟩ := List.head?_eq_some_iff.mp (beq_iff_eq.mp hthird)
          exact ⟨fenceMark, more, rfl, by simp [fenceMark], hrest⟩
      · exact ⟨[backtick, backtick], rest, rfl, by simp, hrest⟩

/-- What a closing line follows is no closing line itself.  The line feed between them is no
backtick, so the backticks behind it would be among the blanks. -/
theorem isFenceEnd_front (front behind : Text) :
    isFenceEnd (front ++ '\n' :: (fenceMark ++ behind)) = false := by
  refine Bool.eq_false_iff.mpr fun hend => ?_
  obtain ⟨marks, blanks, htext, hmarks, hblanks⟩ := exists_of_isFenceEnd hend
  rcases List.append_eq_append_iff.mp htext with ⟨more, rfl, hmore⟩ | ⟨more, rfl, rfl⟩
  · cases more with
    | nil =>
        rw [List.nil_append] at hmore
        have hblank := hblanks backtick (by rw [← hmore]; simp [fenceMark])
        rw [isBlank_backtick] at hblank
        cases hblank
    | cons c more =>
        obtain ⟨rfl, _⟩ := List.cons.inj hmore
        exact absurd (hmarks '\n' (by simp)) (by decide)
  · have hblank := hblanks backtick (by simp [fenceMark])
    rw [isBlank_backtick] at hblank
    cases hblank

/-- Three backticks and blanks end a fence. -/
theorem isFenceEnd_mark {behind : Text} (h : Blanks behind) :
    isFenceEnd (fenceMark ++ behind) = true := by
  simp [isFenceEnd, fenceMark, h.all]

/-- The closing line ends the body, whatever the body holds. -/
theorem closedBody?_append (body : Text) {behind : Text} (h : Blanks behind) :
    closedBody? (body ++ '\n' :: (fenceMark ++ behind)) = some body := by
  induction body with
  | nil => simp [closedBody?, isFenceEnd_mark h]
  | cons c body ih =>
      rw [List.cons_append, closedBody?, isFenceEnd_front, Bool.and_false,
        if_neg Bool.false_ne_true, ih]
      rfl

/-! ## The opening line -/

/-- A text whose first line is filled has blanks without a line feed in front of its first
other character. -/
theorem BeginsFilled.exists_indent {text : Text} (h : BeginsFilled text) :
    ∃ indent c rest, text = indent ++ c :: rest ∧ Blanks indent ∧ '\n' ∉ indent ∧
      isBlank c = false := by
  obtain ⟨line, hline, hfilled⟩ := h
  obtain ⟨lines, hlines⟩ := List.head?_eq_some_iff.mp hline
  obtain ⟨more, rfl⟩ := (linesStand text line lines hlines).1
  have hfeed : '\n' ∉ line := feedless_of_mem_splitLines line (hlines ▸ List.mem_cons_self)
  have hother : (line.find? fun c => !isBlank c).isSome = true := by
    simpa [Blanks] using hfilled
  obtain ⟨c, hfound⟩ := Option.isSome_iff_exists.mp hother
  obtain ⟨hc, indent, rest, rfl, hindent⟩ := List.find?_eq_some_iff_append.mp hfound
  have hnone : '\n' ∉ indent := fun hmem => hfeed (by simp [hmem])
  refine ⟨indent, c, rest ++ more, by simp, ?_, hnone, by simpa using hc⟩
  intro d hd
  simpa using hindent d hd

/-- The first of other characters ends the search for line feeds. -/
theorem lineStartsOnto_indent (found : List Text) {indent : Text} (h : Blanks indent)
    (hfeed : '\n' ∉ indent) {c : Char} (hc : isBlank c = false) (rest : Text) :
    lineStartsOnto found (indent ++ c :: rest) = found := by
  induction indent with
  | nil => simp [lineStartsOnto, hc]
  | cons d indent ih =>
      obtain ⟨hd, hindent⟩ := List.forall_mem_cons.mp h
      obtain ⟨hne, hrest⟩ := not_or.mp (mt List.mem_cons.mpr hfeed)
      rw [List.cons_append, lineStartsOnto, if_pos hd, if_neg (Ne.symm hne), ih hindent hrest]

/-- The language is a word of letters. -/
theorem FoldsTo.solid_language {language : Text} (h : FoldsTo "mermaid".toList language)
    (rest : Text) : Solid (language ++ rest) := by
  cases language with
  | nil => cases h
  | cons c language =>
      have hlower : c.toLower = 'm' := toLower_of_folds (by decide) h.1
      have halpha : c.isAlpha = true := isAlpha_of_toLower (by rw [hlower]; rfl)
      exact Solid.cons (isBlank_of_isAlpha halpha) _

/-- What is left behind the opening line begins, at first, with the body. -/
theorem exists_fenceBodies {before language body : Text} (hbefore : Blanks before)
    (hlanguage : FoldsTo "mermaid".toList language) (hbody : BeginsFilled body) (behind : Text) :
    ∃ others, fenceBodies (fenced before language body behind)
      = (body ++ '\n' :: (fenceMark ++ behind)) :: others := by
  obtain ⟨indent, c, rest, rfl, hindent, hfeed, hc⟩ := hbody.exists_indent
  have htrim : trimStart (fenced before language (indent ++ c :: rest) behind)
      = fenceMark ++ (language ++ '\n' ::
          ((indent ++ c :: rest) ++ '\n' :: (fenceMark ++ behind))) := by
    rw [fenced, hbefore.trimStart_append]
    exact (Solid.cons isBlank_backtick _).trimStart_eq
  generalize hinner : (indent ++ c :: rest) ++ '\n' :: (fenceMark ++ behind) = inner at htrim ⊢
  have hsplit : splitFolded? "mermaid".toList (trimStart (language ++ '\n' :: inner))
      = some (language, '\n' :: inner) := by
    rw [(hlanguage.solid_language _).trimStart_eq]
    exact splitFolded?_eq_some_iff.mpr ⟨rfl, hlanguage⟩
  have hstarts : lineStartsOnto [] ('\n' :: inner) = [inner] := by
    have hrest := lineStartsOnto_indent [inner] hindent hfeed hc
      (rest ++ '\n' :: (fenceMark ++ behind))
    have hregroup : inner = indent ++ c :: (rest ++ '\n' :: (fenceMark ++ behind)) := by
      simp [← hinner]
    rw [← hregroup] at hrest
    rw [lineStartsOnto, if_pos (by decide), if_pos rfl, hrest]
  have hmark : [backtick, backtick, backtick].isPrefixOf
      (fenceMark ++ (language ++ '\n' :: inner)) = true := by
    simp [fenceMark, List.isPrefixOf]
  refine ⟨lineStartsOnto [] (language ++ '\n' :: inner), ?_⟩
  simp only [fenceBodies, htrim, hmark, if_true]
  have hdrop : (fenceMark ++ (language ++ '\n' :: inner)).drop 3 = language ++ '\n' :: inner := rfl
  rw [hdrop, hsplit]
  exact congrArg (· ++ lineStartsOnto [] (language ++ '\n' :: inner)) hstarts

/-! ## The whole fence -/

/-- Trimmed, a fenced text begins and ends with its fence. -/
theorem trim_fenced {before behind : Text} (hbefore : Blanks before) (hbehind : Blanks behind)
    (language body : Text) :
    trim (fenced before language body behind) = fenced [] language body [] := by
  have hfront : trimStart (fenced before language body behind)
      = fenced [] language body [] ++ behind := by
    rw [fenced, hbefore.trimStart_append]
    simp [fenced, (Solid.cons isBlank_backtick _).trimStart_eq, fenceMark]
  have hend : fenced [] language body []
      = fenceMark ++ (language ++ '\n' :: (body ++ ['\n', backtick, backtick])) ++ [backtick] := by
    simp [fenced, fenceMark]
  rw [trim, hfront, hbehind.trimEnd_append, hend, trimEnd_concat isBlank_backtick]

/-- **Taking off the fence gives back the body**, and the fence leaves no trace in what is
handed to the renderer. -/
theorem stripFences_fenced {before language body behind : Text} (hbefore : Blanks before)
    (hlanguage : FoldsTo "mermaid".toList language) (hbody : BeginsFilled body)
    (hbehind : Blanks behind) :
    stripFences (fenced before language body behind) = body ∧
      sanitize (fenced before language body behind) = cleanLabels body := by
  have hstrip : ∀ {front back : Text}, Blanks front → Blanks back →
      stripFences (fenced front language body back) = body := by
    intro front back hfront hback
    obtain ⟨others, hbodies⟩ := exists_fenceBodies hfront hlanguage hbody back
    rw [stripFences, hbodies, List.findSome?_cons, closedBody?_append body hback]
    rfl
  refine ⟨hstrip hbefore hbehind, ?_⟩
  rw [sanitize, trim_fenced hbefore hbehind, hstrip Blanks.nil Blanks.nil]

/-- An indented body that holds a fence, a line of two backticks and a blank last line. -/
def fencedBody : Text :=
  "  A[x (y)]\n\x60\x60\x60 mermaid\n\x60\x60\n\x60\x60\x60\n ".toList

/-- The fence inside the body is neither taken for the opening nor for the closing of the one
around it. -/
theorem stripFences_fenced_inner :
    Blanks "\n\t".toList ∧ FoldsTo "mermaid".toList "MerMaid".toList ∧ BeginsFilled fencedBody ∧
      Blanks " \r\n".toList ∧
      stripFences (fenced "\n\t".toList "MerMaid".toList fencedBody " \r\n".toList)
        = fencedBody ∧
      sanitize (fenced "\n\t".toList "MerMaid".toList fencedBody " \r\n".toList)
        = "  A[x y]\n\x60\x60\x60 mermaid\n\x60\x60\n\x60\x60\x60\n ".toList := by
  have hbefore : Blanks "\n\t".toList := forall_mem_of_all rfl
  have hlanguage : FoldsTo "mermaid".toList "MerMaid".toList :=
    foldsTo_map_toLower "MerMaid".toList
  have hbody : BeginsFilled fencedBody := by
    refine ⟨"  A[x (y)]".toList, by decide, fun hblank => ?_⟩
    exact absurd (hblank 'A' (by decide)) (by decide)
  have hbehind : Blanks " \r\n".toList := forall_mem_of_all rfl
  obtain ⟨hstrip, hsanitize⟩ := stripFences_fenced hbefore hlanguage hbody hbehind
  exact ⟨hbefore, hlanguage, hbody, hbehind, hstrip, hsanitize.trans (by decide)⟩

end Flowchart
