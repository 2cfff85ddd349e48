import Flowchart.Proofs.Text
import Flowchart.Text.Lines
import Mathlib.Data.List.Infix

/-!
# Splitting and joining lines

Lines that hold no line feed and no carriage return are found again in the text
that they are joined to, with either newline.  The lines of a text are such lines
if every carriage return in it belongs to a line feed, and each is a part of it.
With carriage returns that stand alone they are still found again in a text with
the same newline, and so are lines that are changed or inserted without a break.

Main statements: `Joinable.splitLines_joinLines`, `unbroken_of_mem_splitLines`,
`infix_of_mem_splitLines`, `joinable_splitLines`.
-/

namespace Flowchart

/-- There is neither a line feed nor a carriage return in the line. -/
def Unbroken (line : Text) : Prop :=
  ∀ c ∈ line, c ≠ '\n' ∧ c ≠ '\r'

/-- There is no break in a line exactly if all its characters pass the test. -/
theorem unbroken_iff_all {line : Text} :
    Unbroken line ↔ (line.all fun c => c != '\n' && c != '\r') = true := by
  simp [Unbroken]

instance : DecidablePred Unbroken := fun _ => decidable_of_iff' _ unbroken_iff_all

/-- Behind every carriage return of the text stands a line feed. -/
def Paired (source : Text) : Prop :=
  ∀ front back, source = front ++ '\r' :: back → back.head? = some '\n'

/-- The text behind the first character is paired too. -/
theorem Paired.tail {c : Char} {source : Text} (h : Paired (c :: source)) : Paired source :=
  fun front back hsource => h (c :: front) back (by rw [hsource, List.cons_append])

/-- A text without carriage returns has none that stands alone. -/
theorem paired_of_not_mem {source : Text} (h : '\r' ∉ source) : Paired source := by
  intro front back hsource
  exact absurd (by simp [hsource]) h

/-- A text is paired if behind each of its places at which a carriage return stands there is a
line feed. -/
theorem paired_iff_tails {source : Text} :
    Paired source ↔
      ∀ rest ∈ source.tails, rest.head? = some '\r' → rest.tail.head? = some '\n' := by
  constructor
  · intro h rest hrest hreturn
    obtain ⟨front, rfl⟩ := (List.mem_tails rest source).mp hrest
    obtain ⟨back, rfl⟩ := List.head?_eq_some_iff.mp hreturn
    exact h front back rfl
  · intro h front back hsource
    exact h ('\r' :: back) ((List.mem_tails _ source).mpr ⟨front, hsource.symm⟩) rfl

instance : DecidablePred Paired := fun _ => decidable_of_iff' _ paired_iff_tails

/-! ## One character at a time -/

/-- A carriage return with a line feed ends a line. -/
theorem splitLines_crlf (rest : Text) :
    splitLines ('\r' :: '\n' :: rest) = [] :: splitLines rest := rfl

/-- A line feed ends a line. -/
theorem splitLines_lf (rest : Text) : splitLines ('\n' :: rest) = [] :: splitLines rest := rfl

/-- Any other character belongs to the first line. -/
theorem splitLines_cons {c : Char} {rest : Text} (hfeed : c ≠ '\n')
    (hpair : c = '\r' → rest.head? ≠ some '\n') :
    splitLines (c :: rest) = consFirst c (splitLines rest) := by
  cases rest with
  | nil => simp [splitLines]
  | cons d rest =>
      by_cases hreturn : c = '\r'
      · have hd : d ≠ '\n' := by simpa using hpair hreturn
        simp [splitLines, hd]
      · simp [splitLines, hreturn]

/-- Either newline ends a line. -/
theorem splitLines_newline (newline : Newline) (rest : Text) :
    splitLines (newline.text ++ rest) = [] :: splitLines rest := by
  cases newline with
  | lf => exact splitLines_lf rest
  | crlf => exact splitLines_crlf rest

/-- A text has a line at least. -/
theorem splitLines_ne_nil (text : Text) : splitLines text ≠ [] := by
  have hcons : ∀ (c : Char) (lines : List Text), consFirst c lines ≠ [] := by
    intro c lines
    cases lines <;> exact List.cons_ne_nil _ _
  induction text with
  | nil => exact List.cons_ne_nil _ _
  | cons c rest ih =>
      unfold splitLines
      split
      · exact List.cons_ne_nil _ _
      · exact List.cons_ne_nil _ _
      · exact List.cons_ne_nil _ _
      · exact hcons _ _

/-! ## Joining -/

/-- What is read in front of a text goes on its first line, if there is no break in it and
none begins with its last character. -/
theorem splitLines_append {line rest first : Text} {more : List Text} (hfeed : '\n' ∉ line)
    (hreturn : line.getLast? = some '\r' → rest.head? ≠ some '\n')
    (hrest : splitLines rest = first :: more) :
    splitLines (line ++ rest) = (line ++ first) :: more := by
  induction line with
  | nil => exact hrest
  | cons c line ih =>
      have hc := List.ne_of_not_mem_cons hfeed
      have hline := List.not_mem_of_not_mem_cons hfeed
      have htail := ih hline fun hlast => hreturn (by simp [List.getLast?_cons, hlast])
      have hpair : c = '\r' → (line ++ rest).head? ≠ some '\n' := by
        rintro rfl
        cases line with
        | nil => exact hreturn rfl
        | cons d line => simpa using Ne.symm (List.ne_of_not_mem_cons hline)
      rw [List.cons_append, splitLines_cons (Ne.symm hc) hpair, htail]
      rfl

/-- Two lines have the newline between them. -/
theorem joinLines_cons_cons (newline line next : Text) (lines : List Text) :
    joinLines newline (line :: next :: lines)
      = line ++ (newline ++ joinLines newline (next :: lines)) :=
  joinWith_cons_cons newline line next lines

/-- Lines that are found again when they are joined with the newline: a line feed would break
a line, and so would one behind a carriage return at its end take that away. -/
structure Joinable (newline : Newline) (lines : List Text) : Prop where
  /-- There are lines. -/
  ne_nil : lines ≠ []
  /-- There is no line feed in them. -/
  feedless : ∀ line ∈ lines, '\n' ∉ line
  /-- Before a line feed alone no line ends in a carriage return. -/
  returnless : newline = .lf → ∀ line ∈ lines.dropLast, line.getLast? ≠ some '\r'

/-- Joined lines are found again. -/
theorem Joinable.splitLines_joinLines {newline : Newline} {lines : List Text}
    (h : Joinable newline lines) : splitLines (joinLines newline.text lines) = lines := by
  induction lines with
  | nil => exact absurd rfl h.ne_nil
  | cons line lines ih =>
      have hline := h.feedless line List.mem_cons_self
      cases lines with
      | nil =>
          have hsingle := @splitLines_append line [] [] [] hline (fun _ => nofun) rfl
          rw [joinLines, joinWith_singleton]
          simpa using hsingle
      | cons next lines =>
          have hrest := ih
            ⟨List.cons_ne_nil _ _,
              fun other hother => h.feedless other (List.mem_cons_of_mem line hother),
              fun hlf other hother => h.returnless hlf other (List.mem_cons_of_mem line hother)⟩
          have hreturn : line.getLast? = some '\r' →
              (newline.text ++ joinLines newline.text (next :: lines)).head? ≠ some '\n' := by
            intro hlast
            cases newline with
            | lf => exact absurd hlast (h.returnless rfl line List.mem_cons_self)
            | crlf => exact nofun
          have hbreak := splitLines_newline newline (joinLines newline.text (next :: lines))
          rw [hrest] at hbreak
          rw [joinLines_cons_cons, splitLines_append hline hreturn hbreak, List.append_nil]

/-- Lines without breaks are found again, whatever the newline. -/
theorem joinable_of_unbroken (newline : Newline) {lines : List Text} (hne : lines ≠ [])
    (h : ∀ line ∈ lines, Unbroken line) : Joinable newline lines where
  ne_nil := hne
  feedless := fun line hline hfeed => (h line hline _ hfeed).1 rfl
  returnless := fun _ line hline hlast =>
    (h line ((List.dropLast_sublist lines).subset hline) _ (List.mem_of_getLast? hlast)).2 rfl

/-- A line may take the place of another if no feed comes in, nor a return to its end. -/
theorem Joinable.set {newline : Newline} {front back : List Text} {line new : Text}
    (h : Joinable newline (front ++ line :: back)) (hfeed : '\n' ∉ new)
    (hreturn : new.getLast? = some '\r' → line.getLast? = some '\r') :
    Joinable newline (front ++ new :: back) where
  ne_nil := by simp
  feedless := by
    obtain ⟨hfront, hrest⟩ := List.forall_mem_append.mp h.feedless
    exact List.forall_mem_append.mpr
      ⟨hfront, List.forall_mem_cons.mpr ⟨hfeed, (List.forall_mem_cons.mp hrest).2⟩⟩
  returnless := by
    intro hlf
    have hreturns := h.returnless hlf
    rw [List.dropLast_append_cons] at hreturns ⊢
    cases back with
    | nil => exact hreturns
    | cons next back =>
        obtain ⟨hfront, hrest⟩ := List.forall_mem_append.mp hreturns
        obtain ⟨hline, hback⟩ := List.forall_mem_cons.mp hrest
        exact List.forall_mem_append.mpr
          ⟨hfront, List.forall_mem_cons.mpr ⟨fun hlast => hline (hreturn hlast), hback⟩⟩

/-- A part of a line may be exchanged for a text without breaks.  The last character of the line is
then that of what stands behind the part, or the last of the new text. -/
theorem Joinable.exchange {newline : Newline} {front back : List Text}
    {before old new behind : Text}
    (h : Joinable newline (front ++ (before ++ (old ++ behind)) :: back)) (hne : new ≠ [])
    (hnew : Unbroken new) : Joinable newline (front ++ (before ++ (new ++ behind)) :: back) := by
  have hfeedless := h.feedless (before ++ (old ++ behind)) (by simp)
  simp only [List.mem_append, not_or] at hfeedless
  refine h.set (fun hfeed => ?_) fun hreturn => ?_
  · simp only [List.mem_append, hfeedless, or_false, false_or] at hfeed
    exact (hnew _ hfeed).1 rfl
  · cases hlast : behind.getLast? with
    | some c =>
        rw [← List.append_assoc, List.getLast?_append, hlast] at hreturn ⊢
        exact hreturn
    | none =>
        obtain rfl := List.getLast?_eq_none_iff.mp hlast
        have hend := List.getLast?_eq_some_getLast hne
        rw [List.append_nil, List.getLast?_append, hend] at hreturn
        exact absurd (Option.some.inj hreturn) (hnew _ (List.mem_of_getLast? hend)).2

/-- A line without breaks may be inserted before another. -/
theorem Joinable.insert {newline : Newline} {front back : List Text} {new : Text}
    (h : Joinable newline (front ++ back)) (hback : back ≠ []) (hnew : Unbroken new) :
    Joinable newline (front ++ new :: back) where
  ne_nil := by simp
  feedless := by
    obtain ⟨hfront, hrest⟩ := List.forall_mem_append.mp h.feedless
    exact List.forall_mem_append.mpr
      ⟨hfront, List.forall_mem_cons.mpr ⟨fun hfeed => (hnew _ hfeed).1 rfl, hrest⟩⟩
  returnless := by
    intro hlf
    have hreturns := h.returnless hlf
    rw [List.dropLast_append_of_ne_nil hback] at hreturns
    rw [List.dropLast_append_cons, List.dropLast_cons_of_ne_nil hback]
    obtain ⟨hfront, hrest⟩ := List.forall_mem_append.mp hreturns
    exact List.forall_mem_append.mpr ⟨hfront, List.forall_mem_cons.mpr
      ⟨fun hlast => (hnew _ (List.mem_of_getLast? hlast)).2 rfl, hrest⟩⟩

/-! ## The lines of a text -/

/-- A carriage return that begins no newline stands alone. -/
theorem head?_ne_of_not_pair {c : Char} {rest : Text}
    (hpair : ∀ more, c = '\r' → rest = '\n' :: more → False) (hc : c = '\r') :
    rest.head? ≠ some '\n' := by
  intro hhead
  obtain ⟨more, hmore⟩ := List.head?_eq_some_iff.mp hhead
  exact hpair more hc hmore

/-- The lines of a text whose carriage returns are paired hold no breaks. -/
theorem unbroken_of_mem_splitLines {source : Text} (h : Paired source) :
    ∀ line ∈ splitLines source, Unbroken line := by
  fun_induction splitLines source with
  | case1 =>
      intro line hline
      obtain rfl := List.mem_singleton.mp hline
      exact nofun
  | case2 rest ih =>
      intro line hline
      rcases List.mem_cons.mp hline with rfl | hmem
      · exact nofun
      · exact ih h.tail.tail line hmem
  | case3 rest ih =>
      intro line hline
      rcases List.mem_cons.mp hline with rfl | hmem
      · exact nofun
      · exact ih h.tail line hmem
  | case4 c rest hpair hfeed ih =>
      have hreturn : c ≠ '\r' := by
        rintro rfl
        exact head?_ne_of_not_pair hpair rfl (h [] rest rfl)
      have hc : c ≠ '\n' ∧ c ≠ '\r' := ⟨fun hc => hfeed hc, hreturn⟩
      have hlines := ih h.tail
      cases hsplit : splitLines rest with
      | nil => exact absurd hsplit (splitLines_ne_nil rest)
      | cons first more =>
          rw [hsplit] at hlines
          intro line hline
          rcases List.mem_cons.mp hline with rfl | hmem
          · intro d hd
            rcases List.mem_cons.mp hd with rfl | hmem
            · exact hc
            · exact hlines first List.mem_cons_self d hmem
          · exact hlines line (List.mem_cons_of_mem first hmem)

/-- The first line stands at the front of the text, and the others in it. -/
def LinesStand (source : Text) : Prop :=
  ∀ first more, splitLines source = first :: more →
    first <+: source ∧ ∀ line ∈ more, line <:+: source

/-- Each of the lines stands in the text. -/
theorem LinesStand.isInfix_of_mem {source line : Text} (h : LinesStand source)
    (hline : line ∈ splitLines source) : line <:+: source := by
  cases hsplit : splitLines source with
  | nil => exact absurd hsplit (splitLines_ne_nil source)
  | cons first more =>
      obtain ⟨hfirst, hmore⟩ := h first more hsplit
      rw [hsplit] at hline
      rcases List.mem_cons.mp hline with rfl | hmem
      · exact hfirst.isInfix
      · exact hmore line hmem

/-- The lines of a text stand in it. -/
theorem linesStand (source : Text) : LinesStand source := by
  fun_induction splitLines source with
  | case1 =>
      intro first more h
      obtain ⟨rfl, rfl⟩ := List.cons.inj h
      exact ⟨List.nil_prefix, nofun⟩
  | case2 rest ih =>
      intro first more h
      obtain ⟨rfl, rfl⟩ := List.cons.inj h
      refine ⟨List.nil_prefix, fun line hline => ?_⟩
      exact (ih.isInfix_of_mem hline).trans (List.suffix_append ['\r', '\n'] rest).isInfix
  | case3 rest ih =>
      intro first more h
      obtain ⟨rfl, rfl⟩ := List.cons.inj h
      refine ⟨List.nil_prefix, fun line hline => ?_⟩
      exact (ih.isInfix_of_mem hline).trans (List.suffix_cons '\n' rest).isInfix
  | case4 c rest hpair hfeed ih =>
      intro first more h
      have hsplit := splitLines_cons hfeed (head?_ne_of_not_pair hpair)
      cases hrest : splitLines rest with
      | nil => exact absurd hrest (splitLines_ne_nil rest)
      | cons next lines =>
          obtain ⟨hfirst, hmore⟩ := ih next lines hrest
          rw [hsplit, hrest] at h
          obtain ⟨rfl, rfl⟩ := List.cons.inj h
          refine ⟨List.cons_prefix_cons.mpr ⟨rfl, hfirst⟩, fun line hline => ?_⟩
          exact (hmore line hline).trans (List.suffix_cons c rest).isInfix

/-- Each line is a part of the text. -/
theorem infix_of_mem_splitLines {source line : Text} (h : line ∈ splitLines source) :
    line <:+: source :=
  (linesStand source).isInfix_of_mem h

/-- Behind every line but the last stands a newline, and behind that the next. -/
theorem exists_of_splitLines_eq_cons_cons {source first next : Text} {more : List Text}
    (h : splitLines source = first :: next :: more) :
    ∃ newline rest, source = first ++ (Newline.text newline ++ rest) ∧
      splitLines rest = next :: more := by
  fun_induction splitLines source generalizing first with
  | case1 => simp at h
  | case2 rest ih =>
      obtain ⟨rfl, hrest⟩ := List.cons.inj h
      exact ⟨.crlf, rest, rfl, hrest⟩
  | case3 rest ih =>
      obtain ⟨rfl, hrest⟩ := List.cons.inj h
      exact ⟨.lf, rest, rfl, hrest⟩
  | case4 c rest hpair hfeed ih =>
      cases hsplit : splitLines rest with
      | nil => exact absurd hsplit (splitLines_ne_nil rest)
      | cons start lines =>
          rw [hsplit, consFirst] at h
          obtain ⟨rfl, rfl⟩ := List.cons.inj h
          obtain ⟨newline, behind, hrest, hnext⟩ := ih hsplit
          exact ⟨newline, behind, by rw [hrest, List.cons_append], hnext⟩

/-- The lines of a text without carriage returns make up the text. -/
theorem joinLines_splitLines {source : Text} (h : '\r' ∉ source) :
    joinLines Newline.lf.text (splitLines source) = source := by
  fun_induction splitLines source with
  | case1 => rfl
  | case2 rest _ => exact absurd List.mem_cons_self h
  | case3 rest ih =>
      obtain ⟨first, more, hlines⟩ := List.exists_cons_of_ne_nil (splitLines_ne_nil rest)
      have hrest := ih fun hmem => h (List.mem_cons_of_mem _ hmem)
      rw [hlines] at hrest ⊢
      rw [joinLines_cons_cons, hrest]
      rfl
  | case4 c rest _ _ ih =>
      obtain ⟨first, more, hlines⟩ := List.exists_cons_of_ne_nil (splitLines_ne_nil rest)
      have hrest := ih fun hmem => h (List.mem_cons_of_mem _ hmem)
      rw [hlines] at hrest ⊢
      cases more with
      | nil => exact congrArg (c :: ·) hrest
      | cons next more =>
          rw [joinLines_cons_cons] at hrest
          rw [consFirst, joinLines_cons_cons, List.cons_append, hrest]

/-- There is no line feed in a line. -/
theorem feedless_of_mem_splitLines {source : Text} :
    ∀ line ∈ splitLines source, '\n' ∉ line := by
  fun_induction splitLines source with
  | case1 => simp
  | case2 rest ih => exact List.forall_mem_cons.mpr ⟨List.not_mem_nil, ih⟩
  | case3 rest ih => exact List.forall_mem_cons.mpr ⟨List.not_mem_nil, ih⟩
  | case4 c rest hpair hfeed ih =>
      cases hsplit : splitLines rest with
      | nil => exact absurd hsplit (splitLines_ne_nil rest)
      | cons first more =>
          rw [hsplit] at ih
          obtain ⟨hfirst, hmore⟩ := List.forall_mem_cons.mp ih
          refine List.forall_mem_cons.mpr ⟨fun hmem => ?_, hmore⟩
          rcases List.mem_cons.mp hmem with rfl | hrest
          · exact hfeed rfl
          · exact hfirst hrest

/-- In a text without pairs of a carriage return and a line feed no line ends in a carriage
return, unless it is the last. -/
theorem getLast?_of_mem_dropLast_splitLines {source : Text}
    (h : ¬ Newline.crlf.text <:+: source) :
    ∀ line ∈ (splitLines source).dropLast, line.getLast? ≠ some '\r' := by
  generalize hlines : splitLines source = lines
  induction lines generalizing source with
  | nil => exact absurd hlines (splitLines_ne_nil source)
  | cons first lines ih =>
      cases lines with
      | nil => exact nofun
      | cons next more =>
          obtain ⟨newline, rest, rfl, hrest⟩ := exists_of_splitLines_eq_cons_cons hlines
          have hbehind : rest <:+: first ++ (newline.text ++ rest) :=
            ((List.suffix_append newline.text rest).trans (List.suffix_append first _)).isInfix
          refine List.forall_mem_cons.mpr
            ⟨fun hlast => h ?_, ih (fun hpair => h (hpair.trans hbehind)) hrest⟩
          obtain ⟨front, rfl⟩ := List.getLast?_eq_some_iff.mp hlast
          cases newline with
          | lf => exact ⟨front, rest, by simp [Newline.text]⟩
          | crlf => exact ⟨front ++ ['\r'], rest, by simp [Newline.text]⟩

/-- **The lines of any text are found again when they are joined with its newline.** -/
theorem joinable_splitLines (source : Text) :
    Joinable (Newline.ofText source) (splitLines source) where
  ne_nil := splitLines_ne_nil source
  feedless := feedless_of_mem_splitLines
  returnless := by
    intro hlf
    refine getLast?_of_mem_dropLast_splitLines fun hpair => ?_
    have hcontains := contains_iff_infix.mpr hpair
    rw [Newline.ofText, if_pos hcontains] at hlf
    cases hlf

end Flowchart
