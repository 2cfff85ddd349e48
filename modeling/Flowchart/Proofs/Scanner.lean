import Flowchart.Proofs.Source

/-!
# Four scanners

The names of a line are found in four ways.  The names that a shape follows at once, and
the endpoints behind arrows, are read in the prepared line, with the next arrow in sight.
The endpoints before arrows are read in windows that end where the arrow begins, and all
other names in the line whose arrows are blanked, so that no arrow is in sight.

A name ends where the text behind it says so, and that is a hyphen at most: a hyphen that
ends the name where no arrow is in sight does not belong to it where an arrow behind it
begins with a hyphen or an equals sign.  So the scanners agree on every name but the one
between two arrows that ends like this, of which the endpoint behind the first arrow is
read without its hyphen.

Main statement: `scanners_agree`.
-/

namespace Flowchart

/-- A way in which names are found in a prepared line. -/
inductive Scanner where
  /-- The names that a shape follows at once. -/
  | shaped
  /-- The endpoints before arrows. -/
  | before
  /-- The endpoints behind arrows. -/
  | after
  /-- The names of the line with blanks for its arrows. -/
  | blanked
  deriving DecidableEq, Repr

namespace Scanner

/-- The scanner finds the name at the place. -/
def Finds (prepared : Text) (place : Nat) (name : Text) : Scanner → Prop
  | shaped => (place, name) ∈ (shapedNames prepared).map Occurrence.span
  | before => ∃ approach ∈ approaches prepared,
      EndpointBefore prepared approach.start approach.arrow.start place name
  | after => ∃ found ∈ occurrences arrow prepared,
      EndpointAfter prepared found.stop place name
  | blanked => (place, name) ∈ spans (blankArrows prepared)

/-- Does the scanner see the arrow behind a name? -/
def seesArrows : Scanner → Bool
  | shaped | after => true
  | before | blanked => false

end Scanner

/-- The name ends with a hyphen, and behind it stands an arrow with which the hyphen could begin
an arrow too. -/
structure MeetsArrow (prepared : Text) (place : Nat) (name : Text) : Prop where
  /-- The name ends with a hyphen. -/
  hyphen : name.getLast? = some '-'
  /-- The arrow stands behind the name, and begins with a hyphen or an equals sign. -/
  behind : ∃ found ∈ occurrences arrow prepared,
    found.start = place + name.length ∧ continuesArrow found.text = true

/-! ## Names that are read at a place -/

/-- At the place the text goes on with the name. -/
def ReadAt (text : Text) (place : Nat) (name : Text) : Prop :=
  ∃ front rest, text = front ++ (name ++ rest) ∧ front.length = place ∧
    leadingName? (name ++ rest) = some name

/-- At a place one name is read at most. -/
theorem ReadAt.name_eq {text name other : Text} {place : Nat} (h : ReadAt text place name)
    (hother : ReadAt text place other) : name = other := by
  obtain ⟨front, rest, htext, hplace, hname⟩ := h
  obtain ⟨before, behind, hsame, hbefore, hread⟩ := hother
  obtain ⟨_, hrest⟩ := List.append_inj (htext.symm.trans hsame) (hplace.trans hbefore.symm)
  rw [hrest, hread] at hname
  exact (Option.some.inj hname).symm

/-- An identifier that occurs is read at its place. -/
theorem readAt_of_mem_occurrences {text : Text} {name : Occurrence}
    (h : name ∈ occurrences identifier text) : ReadAt text name.start name.text := by
  obtain ⟨front, htext, hstart, hname⟩ := exists_of_mem_occurrences identifier_sound h
  exact ⟨front, name.rest, by rw [htext, List.append_assoc], hstart.symm,
    leadingName?_of_identifier hname⟩

/-- An identifier is read at its place. -/
theorem readAt_of_mem_spans {text name : Text} {place : Nat} (h : (place, name) ∈ spans text) :
    ReadAt text place name := by
  obtain ⟨found, hfound, hspan⟩ := List.mem_map.mp h
  obtain ⟨rfl, rfl⟩ := Prod.mk.inj hspan
  exact readAt_of_mem_occurrences hfound

/-- The endpoint behind an arrow is read at its place. -/
theorem EndpointAfter.readAt {text name : Text} {stop place : Nat}
    (h : EndpointAfter text stop place name) : ReadAt text place name := by
  obtain ⟨front, blanks, rest, htext, _, _, hplace, hname⟩ := h
  exact ⟨front ++ blanks, rest, by rw [htext, List.append_assoc], hplace,
    leadingName?_of_identifier hname⟩

/-! ## A hyphen at the end of a name -/

/-- A name that is read ends where the rest begins. -/
theorem endsName_of_leadingName? {name rest : Text}
    (h : leadingName? (name ++ rest) = some name) : EndsName name rest := by
  obtain ⟨c, run, rfl, halpha, _⟩ := isName_iff.mp (isName_of_leadingName? h)
  have hfound : nameRun (run ++ rest) = run := by
    rw [List.cons_append, leadingName?, if_pos halpha] at h
    exact (List.cons.inj (Option.some.inj h)).2
  refine ⟨(nameRun_of_append hfound).2, ?_⟩
  intro hlast
  cases hrun : run using List.reverseRecOn with
  | nil =>
      rw [hrun] at hlast
      obtain rfl := Option.some.inj hlast
      cases halpha
  | append_singleton front d =>
      rw [hrun, ← List.cons_append, List.getLast?_concat] at hlast
      obtain rfl := Option.some.inj hlast
      rw [hrun, List.append_assoc] at hfound
      rcases (goesOn_of_nameRun (nameRun_of_front hfound)).1 with hname | ⟨_, hrest⟩
      · cases hname
      · exact hrest

/-- The front of a run that is complete by itself is complete too. -/
theorem nameRun_of_front_append {front run : Text} (h : nameRun (front ++ run) = front ++ run) :
    nameRun front = front := by
  induction front with
  | nil => rfl
  | cons c front ih =>
      obtain ⟨hgoes, htail⟩ := goesOn_of_nameRun h
      have hgoesAlone : GoesOn c front := by
        cases front with
        | nil => exact hgoes.imp_right fun hc => ⟨hc.1, rfl⟩
        | cons d front => exact hgoes
      rw [nameRun_of_goesOn hgoesAlone, ih htail]

/-- Where an arrow goes on its last hyphen, a name is read without it, and without no other: a
hyphen before it would not go on the name. -/
theorem leadingName?_append_hyphen {name rest : Text} (h : IsName (name ++ ['-']))
    (hrest : continuesArrow rest = true) : leadingName? (name ++ '-' :: rest) = some name := by
  obtain ⟨c, run, hname, halpha, hrun⟩ := isName_iff.mp h
  cases name with
  | nil =>
      obtain ⟨rfl, _⟩ := List.cons.inj hname
      cases halpha
  | cons d front =>
      obtain ⟨rfl, rfl⟩ := List.cons.inj hname
      have hfront : IsName (d :: front) :=
        isName_iff.mpr ⟨d, front, rfl, halpha, nameRun_of_front_append hrun⟩
      refine hfront.leadingName?_append ⟨nameRun_of_not_goesOn ?_, ?_⟩
      · rintro (hchar | ⟨_, hnot⟩)
        · cases hchar
        · rw [hrest] at hnot
          cases hnot
      · intro hlast
        obtain ⟨start, hstart⟩ := List.getLast?_eq_some_iff.mp hlast
        have hwhole : d :: front ++ ['-'] = start ++ '-' :: ['-'] := by simp [hstart]
        have hends : EndsName (d :: front ++ ['-']) [] := ⟨rfl, fun _ => rfl⟩
        cases h.continuesArrow_append hends hwhole

/-! ## Names of the blanked line in the prepared one -/

/-- Whether an arrow goes on is told by the first character. -/
theorem continuesArrow_append {text : Text} (hne : text ≠ []) (rest : Text) :
    continuesArrow (text ++ rest) = continuesArrow text := by
  obtain ⟨c, text, rfl⟩ := List.exists_cons_of_ne_nil hne
  rfl

/-- A stretch stands at its place, with its arrow behind it. -/
theorem stands_of_mem_placedFrom {text : Text} {start : Nat} {entered : Bool}
    {spot : Nat × Stretch}
    (h : spot ∈ placedFrom start (stretchesFrom entered (pieces arrow text))) :
    ∃ front rest, text = front ++ (spot.2.text ++ (spot.2.arrowText ++ rest)) ∧
      start + front.length = spot.1 ∧
      (spot.2.arrowText ++ rest = [] ∨ IsArrow spot.2.arrowText ∧
        ⟨spot.1 + spot.2.text.length, spot.2.arrowText, rest⟩
          ∈ occurrencesFrom start (pieces arrow text)) := by
  induction text using arrow_induction generalizing start entered with
  | last part hnone =>
      rw [stretchesFrom_of_arrowless hnone] at h
      obtain rfl := List.mem_singleton.mp h
      exact ⟨[], [], by simp [Stretch.arrowText], rfl, Or.inl rfl⟩
  | next part found rest hfirst ih =>
      rw [hfirst.placedFrom_eq] at h
      rw [hfirst.occurrencesFrom_eq]
      rcases List.mem_cons.mp h with rfl | hmem
      · exact ⟨[], rest, rfl, rfl, Or.inr ⟨hfirst.isArrow, List.mem_cons_self⟩⟩
      · obtain ⟨front, behind, htext, hplace, harrow⟩ := ih hmem
        refine ⟨part ++ (found ++ front), behind, by simp [htext], ?_, ?_⟩
        · rw [← hplace, List.length_append, List.length_append]
          omega
        · exact harrow.imp_right fun hfound => ⟨hfound.1, List.mem_cons_of_mem _ hfound.2⟩

/-- A name that ends in its stretch ends there in the whole line, unless it ends the stretch with
a hyphen and an arrow behind it goes that on. -/
theorem endsName_or_meetsArrow {prepared name rest found behind : Text} {place : Nat}
    (hends : EndsName name rest)
    (harrow : found ++ behind = [] ∨ IsArrow found ∧
      ⟨place + (name ++ rest).length, found, behind⟩ ∈ occurrences arrow prepared) :
    EndsName name (rest ++ (found ++ behind)) ∨
      MeetsArrow prepared place name ∧ continuesArrow (rest ++ (found ++ behind)) = true := by
  cases rest with
  | cons c more =>
      refine Or.inl ⟨nameRun_append_eq_nil hends.1 _, ?_⟩
      intro hhyphen
      rw [continuesArrow_append (List.cons_ne_nil c more)]
      exact hends.2 hhyphen
  | nil =>
      rw [List.append_nil] at harrow
      rw [List.nil_append]
      rcases harrow with hnone | ⟨hfound, hmem⟩
      · rw [hnone]
        exact Or.inl hends
      · by_cases hmeets : name.getLast? = some '-' ∧ continuesArrow (found ++ behind) = true
        · obtain ⟨hhyphen, hcontinues⟩ := hmeets
          have hfront := hcontinues
          rw [continuesArrow_append hfound.ne_nil] at hfront
          exact Or.inr ⟨⟨hhyphen, _, hmem, rfl, hfront⟩, hcontinues⟩
        · refine Or.inl ⟨hfound.apart behind, ?_⟩
          intro hhyphen
          simpa [hhyphen] using hmeets

/-- A name of the blanked line stands in the prepared line, and either it ends there too, or it
ends with a hyphen that meets an arrow. -/
theorem exists_of_mem_blanked {prepared name : Text} {place : Nat}
    (h : (place, name) ∈ spans (blankArrows prepared)) :
    ∃ front rest, prepared = front ++ (name ++ rest) ∧ front.length = place ∧ IsName name ∧
      (EndsName name rest ∨ MeetsArrow prepared place name ∧ continuesArrow rest = true) := by
  rw [spans_blankArrows] at h
  obtain ⟨spot, hplaced, hmoved⟩ := List.mem_flatMap.mp h
  obtain ⟨_, hspan, hplace⟩ := List.mem_map.mp hmoved
  obtain ⟨found, hfound, rfl⟩ := List.mem_map.mp hspan
  obtain ⟨rfl, rfl⟩ := Prod.mk.inj hplace
  obtain ⟨start, behind, hprepared, hstart, harrow⟩ := stands_of_mem_placedFrom hplaced
  obtain ⟨front, htext, hfront, hread⟩ := exists_of_mem_occurrences identifier_sound hfound
  have hlength : spot.2.text.length = found.start + (found.text ++ found.rest).length := by
    rw [htext, List.append_assoc, List.length_append, hfront]
  rw [hlength, ← Nat.add_assoc] at harrow
  have hends := endsName_of_leadingName? (leadingName?_of_identifier hread)
  refine ⟨start ++ front, found.rest ++ (spot.2.arrowText ++ behind), ?_, ?_,
    isName_of_mem_occurrences hfound, endsName_or_meetsArrow hends harrow⟩
  · rw [hprepared, htext]
    simp [Occurrence.span]
  · rw [List.length_append, ← hstart, Nat.zero_add, ← hfront]
    rfl

/-- Where a name meets an arrow it does not end in the prepared line. -/
theorem MeetsArrow.continuesArrow_eq {prepared front name rest : Text}
    (h : MeetsArrow prepared front.length name) (hprepared : prepared = front ++ (name ++ rest)) :
    continuesArrow rest = true := by
  obtain ⟨found, hfound, hstart, hcontinues⟩ := h.behind
  obtain ⟨before, htext, hplace, harrow⟩ := exists_of_mem_occurrences arrow_sound hfound
  have hlength : (front ++ name).length = before.length := by
    rw [List.length_append, ← hplace, hstart]
  have hsame : front ++ name ++ rest = before ++ (found.text ++ found.rest) := by
    rw [List.append_assoc, ← hprepared, htext, List.append_assoc]
  obtain ⟨_, hrest⟩ := List.append_inj hsame hlength
  rw [hrest, continuesArrow_append (isArrow_of_arrow harrow).ne_nil]
  exact hcontinues

/-- A name that is read with the arrow behind it in sight is the one that is read without, or
lacks its last hyphen, where that meets the arrow. -/
theorem ReadAt.blanked_eq {prepared name other : Text} {place : Nat}
    (h : ReadAt prepared place name) (hother : (place, other) ∈ spans (blankArrows prepared)) :
    MeetsArrow prepared place other ∧ other = name ++ ['-'] ∨
      ¬ MeetsArrow prepared place other ∧ other = name := by
  obtain ⟨front, rest, hprepared, rfl, hname, hends | ⟨hmeets, hrest⟩⟩ :=
    exists_of_mem_blanked hother
  · have hread : ReadAt prepared front.length other :=
      ⟨front, rest, hprepared, rfl, hname.leadingName?_append hends⟩
    refine Or.inr ⟨?_, hread.name_eq h⟩
    intro hmeets
    have hcontinues := hmeets.continuesArrow_eq hprepared
    rw [hends.2 hmeets.hyphen] at hcontinues
    cases hcontinues
  · obtain ⟨short, rfl⟩ := List.getLast?_eq_some_iff.mp hmeets.hyphen
    have hread : ReadAt prepared front.length short := by
      refine ⟨front, '-' :: rest, ?_, rfl, leadingName?_append_hyphen hname hrest⟩
      rw [hprepared, List.append_assoc]
      rfl
    exact Or.inl ⟨hmeets, by rw [hread.name_eq h]⟩

/-! ## What the scanners find -/

namespace Scanner.Finds

variable {prepared name other : Text} {place : Nat} {scanner : Scanner}

/-- What is found with the arrows in sight is read in the prepared line. -/
theorem readAt (h : scanner.Finds prepared place name) (hsees : scanner.seesArrows = true) :
    ReadAt prepared place name := by
  cases scanner with
  | shaped =>
      obtain ⟨found, hshaped, hspan⟩ := List.mem_map.mp h
      obtain ⟨rfl, rfl⟩ := Prod.mk.inj hspan
      exact readAt_of_mem_occurrences (List.mem_filter.mp hshaped).1
  | after =>
      obtain ⟨_, _, hendpoint⟩ := h
      exact hendpoint.readAt
  | before => cases hsees
  | blanked => cases hsees

/-- What is found with no arrow in sight is a name of the blanked line. -/
theorem mem_spans (h : scanner.Finds prepared place name)
    (hsees : scanner.seesArrows = false) : (place, name) ∈ spans (blankArrows prepared) := by
  cases scanner with
  | shaped => cases hsees
  | after => cases hsees
  | before =>
      obtain ⟨_, happroach, hendpoint⟩ := h
      exact mem_spans_of_endpointBefore happroach hendpoint
  | blanked => exact h

/-- A name with a shape behind it has no hyphen that an arrow could take. -/
theorem eq_of_shaped (h : shaped.Finds prepared place name)
    (hother : (place, other) ∈ spans (blankArrows prepared)) : name = other := by
  rcases (h.readAt rfl).blanked_eq hother with ⟨_, rfl⟩ | ⟨_, rfl⟩
  · obtain ⟨found, hshaped, hspan⟩ := List.mem_map.mp h
    obtain ⟨rfl, rfl⟩ := Prod.mk.inj hspan
    obtain ⟨hfound, hopens⟩ := List.mem_filter.mp hshaped
    obtain ⟨front, htext, hstart, _⟩ := exists_of_mem_occurrences identifier_sound hfound
    obtain ⟨before, rest, hprepared, hplace, _⟩ := exists_of_mem_blanked hother
    rw [hprepared, List.append_assoc front] at htext
    obtain ⟨_, hbehind⟩ := List.append_inj htext (hplace.trans hstart)
    have hrest : found.rest = '-' :: rest := by simpa [Occurrence.span] using hbehind.symm
    rw [hrest] at hopens
    cases hopens
  · rfl

/-- A scanner that sees the arrows agrees with every other, unless it reads behind an arrow what
the other reads with none in sight. -/
theorem eq_of_seesArrows {second : Scanner} (h : scanner.Finds prepared place name)
    (hother : second.Finds prepared place other) (hsees : scanner.seesArrows = true)
    (hpair : ¬ (scanner = .after ∧ second.seesArrows = false)) : name = other := by
  cases hsecond : second.seesArrows with
  | true => exact (h.readAt hsees).name_eq (hother.readAt hsecond)
  | false =>
      cases scanner with
      | shaped => exact h.eq_of_shaped (hother.mem_spans hsecond)
      | after => exact absurd ⟨rfl, hsecond⟩ hpair
      | before => cases hsees
      | blanked => cases hsees

end Scanner.Finds

/-- **The scanners agree on where a name ends,** but for the one behind an arrow and those that
see no arrow: where a name without arrows in sight ends with a hyphen that meets the next arrow,
the endpoint behind the arrow before is read without the hyphen, and nowhere else. -/
theorem scanners_agree (line : Text) {first second : Scanner} {place : Nat} {name other : Text}
    (hfirst : first.Finds (prepareLine line) place name)
    (hsecond : second.Finds (prepareLine line) place other) :
    (¬ (first = .after ∧ second.seesArrows = false) →
        ¬ (second = .after ∧ first.seesArrows = false) → name = other) ∧
      (first = .after → second.seesArrows = false →
        MeetsArrow (prepareLine line) place other ∧ other = name ++ ['-'] ∨
          ¬ MeetsArrow (prepareLine line) place other ∧ other = name) := by
  constructor
  · intro hsecondBlind hfirstBlind
    by_cases hseesFirst : first.seesArrows = true
    · exact hfirst.eq_of_seesArrows hsecond hseesFirst hsecondBlind
    · by_cases hseesSecond : second.seesArrows = true
      · exact (hsecond.eq_of_seesArrows hfirst hseesSecond hfirstBlind).symm
      · rw [Bool.not_eq_true] at hseesFirst hseesSecond
        have hread := readAt_of_mem_spans (hfirst.mem_spans hseesFirst)
        exact hread.name_eq (readAt_of_mem_spans (hsecond.mem_spans hseesSecond))
  · intro hafter hsees
    subst hafter
    exact (hfirst.readAt rfl).blanked_eq (hsecond.mem_spans hsees)

/-- A line in which a name with a hyphen stands between a label and a dotted arrow. -/
def dottedLine : Text :=
  "X[a b] -->|go| Step--.->Far".toList

/-- The endpoint before the second arrow has the hyphen, the one behind the first has not. -/
theorem scanners_agree_dotted :
    Scanner.after.Finds (prepareLine dottedLine) 12 "Step".toList ∧
      Scanner.before.Finds (prepareLine dottedLine) 12 "Step-".toList ∧
      MeetsArrow (prepareLine dottedLine) 12 "Step-".toList := by
  have hafter : Scanner.after.Finds (prepareLine dottedLine) 12 "Step".toList :=
    (leadsTo_iff.mpr ⟨(11, ⟨true, " Step-".toList, some "-.->".toList⟩), by decide,
      ⟨1, "Step".toList, "--.->".toList⟩, by decide, rfl, rfl⟩).2
  have hbefore : Scanner.before.Finds (prepareLine dottedLine) 12 "Step-".toList :=
    (leadsFrom_iff.mpr ⟨(11, ⟨true, " Step-".toList, some "-.->".toList⟩), by decide,
      ⟨1, "Step-".toList, []⟩, by decide, rfl, rfl⟩).2
  rcases (scanners_agree dottedLine hafter hbefore).2 rfl rfl with ⟨hmeets, _⟩ | ⟨_, hsame⟩
  · exact ⟨hafter, hbefore, hmeets⟩
  · exact absurd hsame (by decide)

/-- A line in which such a name stands before a thick arrow. -/
def thickLine : Text :=
  "X-->Step-==>C".toList

/-- The name is read in two ways, and the one without the hyphen is reported as misspelt. -/
theorem scanners_thickArrow :
    (Scanner.after.Finds (prepareLine thickLine) 4 "Step".toList ∧
      Scanner.before.Finds (prepareLine thickLine) 4 "Step-".toList ∧
      Scanner.blanked.Finds (prepareLine thickLine) 4 "Step-".toList ∧
      (analyze {} thickLine).map Issue.reference? = [some "Step".toList]) ∧
      ¬ ∀ (line : Text) (first second : Scanner) (place : Nat) (name other : Text),
        (∀ c ∈ line, c ≠ '\r' ∧ c ≠ '\n') → first.Finds (prepareLine line) place name →
        second.Finds (prepareLine line) place other → name = other := by
  have hafter : Scanner.after.Finds (prepareLine thickLine) 4 "Step".toList :=
    (leadsTo_iff.mpr ⟨(4, ⟨true, "Step-".toList, some "==>".toList⟩), by decide,
      ⟨0, "Step".toList, "-==>".toList⟩, by decide, rfl, rfl⟩).2
  have hbefore : Scanner.before.Finds (prepareLine thickLine) 4 "Step-".toList :=
    (leadsFrom_iff.mpr ⟨(4, ⟨true, "Step-".toList, some "==>".toList⟩), by decide,
      ⟨0, "Step-".toList, []⟩, by decide, rfl, rfl⟩).2
  have hblanked : (4, "Step-".toList) ∈ spans (blankArrows (prepareLine thickLine)) := by decide
  refine ⟨⟨hafter, hbefore, hblanked, by decide⟩, ?_⟩
  intro hall
  have hsame := hall thickLine .after .before 4 _ _ (forall_mem_of_all rfl) hafter hbefore
  exact absurd hsame (by decide)

end Flowchart
