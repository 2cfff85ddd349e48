import Flowchart.Record.Model

/-!
# Records are read as what they were written of

Reading is lenient and forgets: an integer may come as a numeral, a field may be left out,
and fields that no record has are passed over.  Writing is strict, and what it writes is
read as the value it was written of.  That goes from the forms of single values to those of
options and arrays, and from the fields of a record to the record.  So data that was read
and written once is not changed any more.

Main statement: `Model.reading_undoes_writing`.
-/

namespace Flowchart

/-! ## Faithful forms -/

/-- What the form writes of a value, it reads as the value. -/
def Form.Faithful {α : Type} (form : Form α) : Prop :=
  ∀ value, form.decode (form.encode value) = .valid value

namespace Form

variable {α : Type}

/-- A text is read as it was written. -/
theorem faithful_text : text.Faithful := fun _ => rfl

/-- What is not null is read by the form itself. -/
theorem optional_decode {form : Form α} {json : Json} (h : json ≠ .null) :
    (optional form).decode json = (form.decode json).map some := by
  cases json with
  | null => exact absurd rfl h
  | _ => rfl

/-- A value may be absent where nothing is written as `null`. -/
theorem Faithful.optional {form : Form α} (h : form.Faithful)
    (hnull : ∀ value, form.encode value ≠ .null) : (optional form).Faithful := by
  intro value
  cases value with
  | none => rfl
  | some value =>
      change (Form.optional form).decode (form.encode value) = .valid (some value)
      rw [optional_decode (hnull value), h value]
      rfl

/-- The items of an array are read one by one, wherever they stand. -/
theorem Faithful.decodeItems {form : Form α} (h : form.Faithful) (index : Nat)
    (items : List α) : form.decodeItems index (items.map form.encode) = .valid items := by
  induction items generalizing index with
  | nil => rfl
  | cons item items ih =>
      rw [List.map_cons, Form.decodeItems, h item, ih]
      rfl

/-- An array is read as it was written if each item is. -/
theorem Faithful.array {form : Form α} (h : form.Faithful) (otherwise : FaultKind) :
    (array otherwise form).Faithful :=
  fun items => h.decodeItems 0 items

/-- A field that was written is read as its value. -/
theorem Faithful.requiredField {form : Form α} (h : form.Faithful) {name : String}
    {members : Members} {value : α}
    (hmember : Json.lookup? name.toList members = some (form.encode value)) :
    requiredField name form members = .valid value := by
  rw [Flowchart.requiredField, hmember]
  simp only [h value]
  rfl

/-- A field that was written is read as its value, also where it could be absent. -/
theorem Faithful.defaultField {form : Form α} (h : form.Faithful) {name : String}
    {members : Members} {value : α}
    (hmember : Json.lookup? name.toList members = some (form.encode value)) (absent : α) :
    defaultField name form absent members = .valid value := by
  rw [Flowchart.defaultField, hmember]
  simp only [h value]
  rfl

end Form

/-! ## The records -/

/-- The kind of an issue is read as it was written. -/
theorem IssueKind.faithful_form : IssueKind.form.Faithful := by
  intro kind
  cases kind <;> rfl

/-- A replacement is read as it was written. -/
theorem Replacement.faithful_form : Replacement.form.Faithful := fun _ => rfl

/-- An ending is read as it was written. -/
theorem Ending.faithful_form : Ending.form.Faithful := fun _ => rfl

/-- A definition is read as it was written. -/
theorem Definition.faithful_form : Definition.form.Faithful := fun _ => rfl

/-- The kind in the record of a fix tells which variant it is. -/
theorem Fix.faithful_form : Fix.form.Faithful := by
  intro fix
  cases fix <;> rfl

/-- No fix is written as null. -/
theorem Fix.toJson_ne_null (fix : Fix) : fix.toJson ≠ .null := by
  cases fix <;> exact nofun

/-- An issue is read as it was written. -/
theorem Issue.faithful_form : Issue.form.Faithful := by
  intro issue
  obtain ⟨kind, line, column, message, suggestion, fix⟩ := issue
  let members : Members :=
    [("kind".toList, IssueKind.form.encode kind), ("line".toList, .int line),
      ("column".toList, .int column), ("message".toList, .str message),
      ("suggestion".toList, (Form.optional .text).encode suggestion),
      ("fix".toList, (Form.optional Fix.form).encode fix)]
  have hkind : requiredField "kind" IssueKind.form members = .valid kind :=
    IssueKind.faithful_form.requiredField rfl
  have hsuggestion : defaultField "suggestion" (.optional .text) none members
      = .valid suggestion :=
    (Form.faithful_text.optional fun _ => nofun).defaultField rfl none
  have hfix : defaultField "fix" (.optional Fix.form) none members = .valid fix :=
    (Fix.faithful_form.optional Fix.toJson_ne_null).defaultField rfl none
  change Issue.mk <$> requiredField "kind" IssueKind.form members
    <*> requiredField "line" .integer members <*> requiredField "column" .integer members
    <*> requiredField "message" .text members
    <*> defaultField "suggestion" (.optional .text) none members
    <*> defaultField "fix" (.optional Fix.form) none members = _
  rw [hkind, hsuggestion, hfix]
  rfl

/-- The names of a document are read as they were written. -/
theorem Names.faithful_form : Names.form.Faithful := by
  intro names
  have hlist := Form.faithful_text.array .tupleType
  let members : Members :=
    [("nodes".toList, (Form.array .tupleType .text).encode names.nodes),
      ("references".toList, (Form.array .tupleType .text).encode names.references)]
  have hnodes : defaultField "nodes" (.array .tupleType .text) [] members = .valid names.nodes :=
    hlist.defaultField rfl []
  have hreferences : defaultField "references" (.array .tupleType .text) [] members
      = .valid names.references :=
    hlist.defaultField rfl []
  change Names.mk <$> defaultField "nodes" (.array .tupleType .text) [] members
    <*> defaultField "references" (.array .tupleType .text) [] members = _
  rw [hnodes, hreferences]
  rfl

/-- A request for a report is read as it was written. -/
theorem LintRequest.faithful_form : LintRequest.form.Faithful := fun _ => rfl

/-- A request for a fix is read as it was written. -/
theorem FixRequest.faithful_form : FixRequest.form.Faithful := by
  intro request
  let members : Members :=
    [("source".toList, .str request.source), ("fix".toList, Fix.form.encode request.fix)]
  have hfix : requiredField "fix" Fix.form members = .valid request.fix :=
    Fix.faithful_form.requiredField rfl
  change FixRequest.mk <$> requiredField "source" .text members
    <*> requiredField "fix" Fix.form members = _
  rw [hfix]
  rfl

/-- An issue with its candidates is read as it was written. -/
theorem Finding.faithful_form : Finding.form.Faithful := by
  intro finding
  let members : Members :=
    [("issue".toList, Issue.form.encode finding.issue),
      ("candidates".toList, (Form.array .listType Fix.form).encode finding.candidates)]
  have hissue : requiredField "issue" Issue.form members = .valid finding.issue :=
    Issue.faithful_form.requiredField rfl
  have hcandidates : defaultField "candidates" (.array .listType Fix.form) [] members
      = .valid finding.candidates :=
    (Fix.faithful_form.array .listType).defaultField rfl []
  change Finding.mk <$> requiredField "issue" Issue.form members
    <*> defaultField "candidates" (.array .listType Fix.form) [] members = _
  rw [hissue, hcandidates]
  rfl

/-- An answer with issues is read as it was written. -/
theorem LintResponse.faithful_form : LintResponse.form.Faithful := by
  intro response
  let members : Members :=
    [("issues".toList, (Form.array .listType Finding.form).encode response.issues)]
  have hissues : defaultField "issues" (.array .listType Finding.form) [] members
      = .valid response.issues :=
    (Finding.faithful_form.array .listType).defaultField rfl []
  change LintResponse.mk <$> defaultField "issues" (.array .listType Finding.form) [] members = _
  rw [hissues]
  rfl

/-- An answer with a text is read as it was written. -/
theorem SourceResponse.faithful_form : SourceResponse.form.Faithful := fun _ => rfl

/-- The form of every kind of record is faithful. -/
theorem Model.faithful_form (model : Model) : model.form.Faithful := by
  cases model with
  | issueKind => exact IssueKind.faithful_form
  | replacement => exact Replacement.faithful_form
  | ending => exact Ending.faithful_form
  | definition => exact Definition.faithful_form
  | fix => exact Fix.faithful_form
  | issue => exact Issue.faithful_form
  | names => exact Names.faithful_form
  | lintRequest => exact LintRequest.faithful_form
  | finding => exact Finding.faithful_form
  | lintResponse => exact LintResponse.faithful_form
  | fixRequest => exact FixRequest.faithful_form
  | sourceResponse => exact SourceResponse.faithful_form

/-! ## Data that was read and written -/

/-- What is changed is valid exactly if it was valid before, and then it is the changed value. -/
theorem Checked.map_eq_valid_iff {α β : Type} {f : α → β} {checked : Checked α} {value : β} :
    checked.map f = .valid value ↔ ∃ given, checked = .valid given ∧ f given = value := by
  cases checked with
  | valid given => simp [map]
  | faulty faults => simp [map]

/-- **Reading undoes writing.**  Every value of every kind of record is read back from the
data it is written as.  So data that is found valid and written again is found valid, stands
for the same value and stays as it is; and only such data stays as it is. -/
theorem Model.reading_undoes_writing (model : Model) :
    (∀ value : model.Value, model.form.decode (model.form.encode value) = .valid value) ∧
      (∀ data written, model.normalize data = .valid written →
        model.form.decode written = model.form.decode data ∧
          model.normalize written = .valid written) ∧
      ∀ data, model.normalize data = .valid data ↔ ∃ value, data = model.form.encode value := by
  have hfaithful := model.faithful_form
  have hkept : ∀ value, model.normalize (model.form.encode value)
      = .valid (model.form.encode value) := by
    intro value
    rw [normalize, hfaithful value]
    rfl
  refine ⟨hfaithful, fun data written hwritten => ?_, fun data => ⟨fun hdata => ?_, ?_⟩⟩
  · obtain ⟨value, hread, rfl⟩ := Checked.map_eq_valid_iff.mp hwritten
    exact ⟨(hfaithful value).trans hread.symm, hkept value⟩
  · obtain ⟨value, _, hsame⟩ := Checked.map_eq_valid_iff.mp hdata
    exact ⟨value, hsame.symm⟩
  · rintro ⟨value, rfl⟩
    exact hkept value

/-- The record of an issue whose numbers are a numeral and a truth value, with a field that no
issue has, and of a candidate whose line is a numeral with a sign. -/
def looseFinding : Json :=
  .ofMembers
    [("candidates", .arr
      [.ofMembers
        [("insert_before_line", .ofString " +0_12.0 "), ("kind", .ofString "define_node"),
          ("node_id", .ofString "Stpe")],
       .ofMembers
        [("kind", .ofString "append_end"), ("after_line", .int (-36893488147419103233))]]),
     ("issue", .ofMembers
      [("kind", .ofString "possible_typo"), ("line", .ofString "007"), ("column", .bool true),
        ("message", .ofString ""), ("severity", .int 3), ("fix", .null)])]

/-- The record that it is written as. -/
def strictFinding : Json :=
  .ofMembers
    [("issue", .ofMembers
      [("kind", .ofString "possible_typo"), ("line", .int 7), ("column", .int 1),
        ("message", .ofString ""), ("suggestion", .null), ("fix", .null)]),
     ("candidates", .arr
      [.ofMembers
        [("kind", .ofString "define_node"), ("node_id", .ofString "Stpe"),
          ("insert_before_line", .int 12)],
       .ofMembers
        [("kind", .ofString "append_end"), ("after_line", .int (-36893488147419103233))]])]

/-- The loose record is valid, and the strict one stands for the same finding. -/
theorem reading_undoes_writing_loose :
    Model.finding.normalize looseFinding = .valid strictFinding ∧
      Finding.form.decode strictFinding = Finding.form.decode looseFinding ∧
      Model.finding.normalize strictFinding = .valid strictFinding := by
  have hwritten : Model.finding.normalize looseFinding = .valid strictFinding := by rfl
  obtain ⟨_, hkept, _⟩ := Model.finding.reading_undoes_writing
  exact ⟨hwritten, hkept looseFinding strictFinding hwritten⟩

end Flowchart
