/-
Reading JSON values undoes writing them.

A record is read by looking up its keys, each of which occurs once in what is written, and a name
by looking for the member of a list that goes by it, of which there is one.
`ofJson?_toJson_documents` puts this together for expressions, for sequences of calls and for dates.
-/
import TrackSearch.Json.Document

namespace TrackSearch

/-! ## Records, names and lists -/

namespace Json

theorem filter_key_eq {entries : List (String × Json)} (hnodup : (entries.map Prod.fst).Nodup)
    {key : String} {value : Json} (hmem : (key, value) ∈ entries) :
    entries.filter (fun e => e.1 == key) = [(key, value)] := by
  induction entries with
  | nil => exact absurd hmem List.not_mem_nil
  | cons e es ih =>
    rw [List.map_cons, List.nodup_cons] at hnodup
    obtain ⟨hhead, htail⟩ := hnodup
    rcases List.mem_cons.mp hmem with rfl | hmem
    · have hrest : es.filter (fun e => e.1 == key) = [] := by
        refine List.filter_eq_nil_iff.mpr fun f hf hkey => ?_
        exact hhead (List.mem_map.mpr ⟨f, hf, by simpa using hkey⟩)
      rw [List.filter_cons, if_pos (beq_self_eq_true key), hrest]
    · have hne : ¬ (e.1 == key) = true := by
        intro hkey
        exact hhead (List.mem_map.mpr ⟨(key, value), hmem, (beq_iff_eq.mp hkey).symm⟩)
      rw [List.filter_cons, if_neg hne]
      exact ih htail hmem

theorem valueAt?_of_mem {entries : List (String × Json)} (hnodup : (entries.map Prod.fst).Nodup)
    {key : String} {value : Json} (hmem : (key, value) ∈ entries) :
    valueAt? entries key = some value := by
  rw [valueAt?, filter_key_eq hnodup hmem]

theorem mapM_valueAt?_of_subset {entries : List (String × Json)}
    (hnodup : (entries.map Prod.fst).Nodup) {keys : List String} {values : List Json}
    (hlength : keys.length = values.length) (hsub : keys.zip values ⊆ entries) :
    keys.mapM (valueAt? entries) = some values := by
  induction keys generalizing values with
  | nil =>
    rw [List.eq_nil_of_length_eq_zero hlength.symm]
    rfl
  | cons key keys ih =>
    cases values with
    | nil => simp at hlength
    | cons value values =>
      rw [List.zip_cons_cons, List.cons_subset] at hsub
      have hrest := ih (Nat.succ.inj hlength) hsub.2
      rw [List.mapM_cons, valueAt?_of_mem hnodup hsub.1, hrest]
      rfl

theorem record?_object {entries : List (String × Json)}
    (hnodup : (entries.map Prod.fst).Nodup) :
    record? (entries.map Prod.fst) (.object entries) = some (entries.map Prod.snd) := by
  refine mapM_valueAt?_of_subset hnodup (by rw [List.length_map, List.length_map]) ?_
  rw [List.zip_map', List.map_id']
  exact List.Subset.refl entries

theorem find?_key_eq {α : Type} {members : List α} {key : α → String}
    (hnodup : (members.map key).Nodup) {a : α} (ha : a ∈ members) :
    members.find? (fun b => key b == key a) = some a := by
  induction members with
  | nil => exact absurd ha List.not_mem_nil
  | cons b bs ih =>
    rw [List.map_cons, List.nodup_cons] at hnodup
    rcases List.mem_cons.mp ha with rfl | ha
    · exact List.find?_cons_of_pos (beq_self_eq_true (key a))
    · have hne : ¬ (key b == key a) = true := by
        intro hkey
        exact hnodup.1 (List.mem_map.mpr ⟨a, ha, (beq_iff_eq.mp hkey).symm⟩)
      rw [List.find?_cons, Bool.eq_false_iff.mpr hne]
      exact ih hnodup.2 ha

theorem named?_key {α : Type} (saysNothing : Json → Bool) {members : List α} {key : α → String}
    (hnodup : (members.map key).Nodup) {a : α} (ha : a ∈ members) :
    named? saysNothing members key (.string (key a)) = some a :=
  find?_key_eq hnodup ha

theorem listOf?_map {α : Type} {read? : Json → Option α} {write : α → Json} {as : List α}
    (h : ∀ a ∈ as, read? (write a) = some a) :
    (Json.array (as.map write)).listOf? read? = some as := by
  show (as.map write).mapM read? = some as
  induction as with
  | nil => rfl
  | cons a as ih =>
    have hrest := ih fun b hb => h b (List.mem_cons_of_mem a hb)
    rw [List.map_cons, List.mapM_cons, h a List.mem_cons_self, hrest]
    rfl

theorem word?_integer (w : Int64) : word? (.integer w.toInt) = some w :=
  Number.word?_toInt w

end Json

/-! ## Expressions -/

theorem MatchKind.nodup_key : (all.map key).Nodup := by decide

theorem MatchKind.mem_all (k : MatchKind) : k ∈ all := by
  cases k <;> decide

theorem Element.ofJson?_toJson (e : Element) : ofJson? e.toJson = some e := by
  have hrecord : e.toJson.record? ["field", "text", "negate", "match_kind"] =
      some [.string e.field, .string e.text, .bool e.negate, .string e.matchKind.key] :=
    Json.record?_object (by simp)
  have hkind := Json.named?_key Json.isNull MatchKind.nodup_key e.matchKind.mem_all
  rw [ofJson?, hrecord]
  dsimp only
  rw [hkind]
  rfl

theorem Expression.ofJson?_toJson (e : Expression) : ofJson? e.toJson = some e := by
  have hrecord : e.toJson.record? ["groups"] =
      some [.array (e.groups.map fun g => .array (g.map Element.toJson))] :=
    Json.record?_object (by simp)
  have hgroup (g : Group) : (Json.array (g.map Element.toJson)).listOf? Element.ofJson? = some g :=
    Json.listOf?_map fun el _ => el.ofJson?_toJson
  rw [ofJson?, hrecord]
  dsimp only
  rw [Json.listOf?_map fun g _ => hgroup g]
  rfl

/-! ## Calls -/

namespace Call

theorem Shape.nodup_key : (all.map key).Nodup := by decide

theorem Shape.mem_all (s : Shape) : s ∈ all := by
  rcases s with _ | _ | _ | (_ | _) | (_ | _) <;> decide

theorem length_operandsToJson (c : Call) : c.shape.operands.length = c.operandsToJson.length := by
  cases c <;> rfl

/-- No operand goes by the key that holds the name of the call. -/
theorem Shape.nodup_operands (s : Shape) : ("call" :: s.operands).Nodup := by
  rcases s with _ | _ | _ | (_ | _) | (_ | _) <;> decide

theorem ofOperands?_operandsToJson (c : Call) : ofOperands? c.shape c.operandsToJson = some c := by
  have hfield (f : Field) : named? Field.all Field.key (.string f.key) = some f :=
    Json.named?_key Json.isNullOrEmpty (by decide) f.mem_all
  have hcomparison (k : Comparison) :
      named? Comparison.all Comparison.key (.string k.key) = some k :=
    Json.named?_key Json.isNullOrEmpty (by decide) (by cases k <;> decide)
  cases c with
  | beginOr => rfl
  | beginAnd => rfl
  | endScope => rfl
  | textFilter exclude field text matchStart matchEnd =>
    rw [shape, operandsToJson, ofOperands?, hfield]
    rfl
  | numberFilter exclude field value comparison =>
    rw [shape, operandsToJson, ofOperands?, hfield, Json.word?_integer, hcomparison]
    rfl

theorem ofJson?_toJson (c : Call) : ofJson? c.toJson = some c := by
  have hkeys : (c.shape.operands.zip c.operandsToJson).map Prod.fst = c.shape.operands :=
    List.map_fst_zip (Nat.le_of_eq c.length_operandsToJson)
  have hnodup : ((("call", Json.string c.shape.key) ::
      c.shape.operands.zip c.operandsToJson).map Prod.fst).Nodup := by
    rw [List.map_cons, hkeys]
    exact c.shape.nodup_operands
  have hname := Json.valueAt?_of_mem hnodup List.mem_cons_self
  have hoperands := Json.mapM_valueAt?_of_subset hnodup c.length_operandsToJson
    (List.subset_cons_self _ _)
  have hshape := Json.find?_key_eq Shape.nodup_key c.shape.mem_all
  rw [toJson, ofJson?]
  simp only [hname, hshape, hoperands, Json.string?, Option.bind_eq_bind, Option.bind_some]
  exact c.ofOperands?_operandsToJson

end Call

/-! ## Dates -/

theorem Resolution.ofJson?_toJson (r : Resolution) : ofJson? r.toJson = some r := by
  have hrecord : r.toJson.record? ["value", "is_absolute"] =
      some [.integer r.value.toInt, .bool r.isAbsolute] :=
    Json.record?_object (by simp)
  rw [ofJson?, hrecord]
  dsimp only
  rw [Json.word?_integer]
  rfl

/-! ## All documents -/

theorem Json.injective_of_read {α : Type} {read? : Json → Option α} {write : α → Json}
    (h : ∀ a, read? (write a) = some a) : Function.Injective write := by
  intro a b hab
  have hread := h a
  rw [hab, h b] at hread
  exact (Option.some.inj hread).symm

/-- What is written of an expression, of a sequence of calls or of a date is read as just that, so
no two of them are written as the same value. -/
theorem ofJson?_toJson_documents :
    (∀ e : Expression, Expression.ofJson? e.toJson = some e) ∧
      (∀ cs : List Call, (Json.array (cs.map Call.toJson)).listOf? Call.ofJson? = some cs) ∧
      (∀ r : Resolution, Resolution.ofJson? r.toJson = some r) ∧
      Function.Injective Expression.toJson ∧
      Function.Injective (fun cs : List Call => Json.array (cs.map Call.toJson)) ∧
      Function.Injective Resolution.toJson := by
  have hcalls (cs : List Call) :
      (Json.array (cs.map Call.toJson)).listOf? Call.ofJson? = some cs :=
    Json.listOf?_map fun c _ => c.ofJson?_toJson
  exact ⟨Expression.ofJson?_toJson, hcalls, Resolution.ofJson?_toJson,
    Json.injective_of_read Expression.ofJson?_toJson, Json.injective_of_read hcalls,
    Json.injective_of_read Resolution.ofJson?_toJson⟩

end TrackSearch
