import Docketworks.Quoting.ProductMappings

/-!
# A validated mapping stays the operator's

Who may change the mapped values of a mapping once an operator has validated it, over every order in
which workers and operators take their queries.

* `Guarded` — a worker that is about to save read its row before it was validated.
* `NotValidatedSince` — and at its save the row still is as it was read.
* `validated_values_kept` — the values are then those an operator last left.
* `stale_parse_overwrites` — a row validated between a worker's read and its save is overwritten.
-/

namespace Docketworks.Quoting

open Library

/-- Every worker about to save read its row as one that is not validated. -/
def Guarded (s : MappingState) : Prop :=
  ∀ parse ∈ s.parses.rows, ∀ read ∈ parse.read, read.1.isValidated = false

/-- No operator has validated the row a worker saves over since the worker read it. -/
def NotValidatedSince (s : MappingState) (event : MappingEvent) : Prop :=
  match event with
  | .saved parse =>
      ∀ row ∈ s.parses.find? parse, ∀ read ∈ row.read,
        ∀ stored ∈ s.mappings.find? read.1.inputHash, stored.isValidated = read.1.isValidated
  | _ => True

instance (s : MappingState) (event : MappingEvent) : Decidable (NotValidatedSince s event) := by
  unfold NotValidatedSince
  split <;> infer_instance

/-- The event is an operator's save of the mapping of this text. -/
def ByOperator (text : String) (s : MappingState) (event : MappingEvent) : Prop :=
  ∃ request data staff row, event = .validated request data staff ∧
    s.validations.find? request = some row ∧ row.mapping.inputHash = text

def MappingState.validatedValues (s : MappingState) (text : String) : Option MappedValues :=
  ((s.mappings.find? text).filter ProductParsingMapping.isValidated).map
    ProductParsingMapping.mapped

/-- An operator's save in the course of these queries left these values. -/
def LeftByOperator (readDecimal : String → Option ℚ) (text : String) (s : MappingState)
    (events : List MappingEvent) (values : MappedValues) : Prop :=
  ∃ earlier event later u u', events = earlier ++ event :: later ∧
    (quoting readDecimal).run s earlier = some u ∧ ByOperator text u event ∧
    quoting readDecimal u event = some u' ∧ u'.validatedValues text = some values

section Steps

variable {readDecimal : String → Option ℚ} {s s' t : MappingState} {event : MappingEvent} {text : String}
  {mapping mapping' : ProductParsingMapping} {parse : Parse} {columns : ParsedColumns}

/-! ## One query -/

lemma guarded_erase (h : Guarded s) (id : ℕ) :
    Guarded { s with parses := s.parses.erase id } :=
  fun row hrow => h row (Table.mem_erase.mp hrow).1

lemma guarded_getOrCreate (h : Guarded s) (parse : Parse) (columns : ParsedColumns) :
    Guarded (getOrCreate s parse columns) := by
  unfold getOrCreate
  split
  · exact fun row hrow => h row (Table.mem_erase.mp hrow).1
  · split
    · exact guarded_erase h parse.id
    · rename_i hopen
      intro row hrow read hread
      rcases Table.mem_put.mp hrow with ⟨hold, -⟩ | ⟨rfl, -⟩
      · exact h row hold read hread
      · obtain rfl := Option.some.inj hread
        simp only [Bool.or_eq_true, not_or] at hopen
        exact Bool.eq_false_iff.mpr hopen.1

lemma find?_getOrCreate (h : s.mappings.find? text = some mapping) (parse : Parse)
    (columns : ParsedColumns) : (getOrCreate s parse columns).mappings.find? text = some mapping := by
  unfold getOrCreate
  split
  · exact find?_inserted h
  · split <;> exact h

lemma find?_fill (hguard : Guarded s) (hparse : parse ∈ s.parses.rows)
    (hsince : ∀ read ∈ parse.read, ∀ stored ∈ s.mappings.find? read.1.inputHash,
      stored.isValidated = read.1.isValidated)
    (h : s.mappings.find? text = some mapping) (hvalid : mapping.isValidated = true)
    (hfill : fill s parse = some s') : s'.mappings.find? text = some mapping := by
  unfold fill at hfill
  obtain ⟨⟨read, columns⟩, hread, hfill⟩ := Option.bind_eq_some_iff.mp hfill
  obtain ⟨stored, hstored, hfill⟩ := Option.bind_eq_some_iff.mp hfill
  obtain rfl := Option.some.inj hfill
  have hkey : stored.inputHash = read.inputHash := Table.key_of_find? hstored
  have hne : text ≠ (withColumns stored columns).inputHash := by
    rintro rfl
    have hopen := hguard parse hparse _ hread
    have hsame := hsince _ hread stored hstored
    have hfound : s.mappings.find? stored.inputHash = some mapping := h
    rw [hkey, hstored] at hfound
    obtain rfl := Option.some.inj hfound
    rw [hvalid, hopen] at hsame
    cases hsame
  exact (Table.find?_put_of_ne hne).trans h

/-- **The step.**  A validated mapping stays validated, and its values stay but for an operator's save. -/
lemma step_keeps_validated (hguard : Guarded s) (hsince : NotValidatedSince s event)
    (hstep : quoting readDecimal s event = some s') (h : s.mappings.find? text = some mapping)
    (hvalid : mapping.isValidated = true) :
    (∃ mapping', s'.mappings.find? text = some mapping' ∧ mapping'.isValidated = true) ∧
      (s'.mappings.find? text = some mapping ∨ ByOperator text s event) := by
  -- every step but an operator's save leaves the row
  suffices hkept : s'.mappings.find? text = some mapping ∨ ByOperator text s event ∧
      ∃ mapping', s'.mappings.find? text = some mapping' ∧ mapping'.isValidated = true by
    rcases hkept with hsame | ⟨hby, hleft⟩
    · exact ⟨⟨mapping, hsame, hvalid⟩, .inl hsame⟩
    · exact ⟨hleft, .inr hby⟩
  cases event with
  | reserved product =>
      obtain rfl := Option.some.inj hstep
      exact .inl (find?_inserted h)
  | lookedUp parse product =>
      simp only [quoting] at hstep
      split at hstep
      · obtain rfl := Option.some.inj hstep
        exact .inl h
      · obtain ⟨parses, -, rfl⟩ := Option.map_eq_some_iff.mp hstep
        exact .inl h
  | noAnswer parse =>
      obtain ⟨_, -, rfl⟩ := Option.map_eq_some_iff.mp hstep
      exact .inl h
  | answered parse parsed llmResponse =>
      obtain ⟨row, -, rfl⟩ := Option.map_eq_some_iff.mp hstep
      exact .inl (find?_getOrCreate h row _)
  | saved parse =>
      obtain ⟨row, hrow, hfill⟩ := Option.bind_eq_some_iff.mp hstep
      exact .inl (find?_fill hguard (Table.mem_of_find? hrow) (hsince row hrow) h hvalid hfill)
  | opened request mapping =>
      obtain ⟨_, -, hstep⟩ := Option.bind_eq_some_iff.mp hstep
      obtain ⟨_, -, hstep⟩ := Option.bind_eq_some_iff.mp hstep
      obtain rfl := Option.some.inj hstep
      exact .inl h
  | validated request data staff =>
      obtain ⟨row, hrow, rfl⟩ := Option.map_eq_some_iff.mp hstep
      obtain ⟨hkey, hmarked⟩ := columns_validated s.stockCodes row.mapping data staff
      simp only
      split
      · by_cases htext : row.mapping.inputHash = text
        · have hstored : s.mappings.find? (validated s.stockCodes row.mapping data staff).inputHash =
              some mapping := by rw [hkey, htext, h]
          have hput := Table.find?_put_self hstored
          rw [hkey, htext] at hput
          exact .inr ⟨⟨request, data, staff, row, rfl, hrow, htext⟩, _, hput, hmarked⟩
        · have hne : text ≠ (validated s.stockCodes row.mapping data staff).inputHash :=
            fun heq => htext (heq.trans hkey).symm
          exact .inl ((Table.find?_put_of_ne hne).trans h)
      · exact .inl h

lemma step_keeps_guarded (hguard : Guarded s) (hstep : quoting readDecimal s event = some s') :
    Guarded s' := by
  cases event with
  | reserved product => exact Option.some.inj hstep ▸ hguard
  | lookedUp parse product =>
      simp only [quoting] at hstep
      split at hstep
      · exact Option.some.inj hstep ▸ hguard
      · obtain ⟨parses, hinsert, rfl⟩ := Option.map_eq_some_iff.mp hstep
        intro row hrow read hread
        rcases (Table.mem_insert? hinsert).mp hrow with hold | rfl
        · exact hguard row hold read hread
        · cases hread
  | noAnswer parse =>
      obtain ⟨_, -, rfl⟩ := Option.map_eq_some_iff.mp hstep
      exact guarded_erase hguard parse
  | answered parse parsed llmResponse =>
      obtain ⟨row, -, rfl⟩ := Option.map_eq_some_iff.mp hstep
      exact guarded_getOrCreate hguard row _
  | saved parse =>
      obtain ⟨row, -, hfill⟩ := Option.bind_eq_some_iff.mp hstep
      unfold fill at hfill
      obtain ⟨_, -, hfill⟩ := Option.bind_eq_some_iff.mp hfill
      obtain ⟨_, -, hfill⟩ := Option.bind_eq_some_iff.mp hfill
      obtain rfl := Option.some.inj hfill
      exact fun other hother => hguard other (Table.mem_erase.mp hother).1
  | opened request mapping =>
      obtain ⟨_, -, hstep⟩ := Option.bind_eq_some_iff.mp hstep
      obtain ⟨_, -, hstep⟩ := Option.bind_eq_some_iff.mp hstep
      obtain rfl := Option.some.inj hstep
      exact hguard
  | validated request data staff =>
      obtain ⟨row, -, rfl⟩ := Option.map_eq_some_iff.mp hstep
      exact hguard

end Steps

/-! ## Whole runs -/

section Runs

variable {readDecimal : String → Option ℚ} {s t : MappingState} {text : String}

lemma validatedValues_eq_some {values : MappedValues} :
    s.validatedValues text = some values ↔ ∃ mapping, s.mappings.find? text = some mapping ∧
      mapping.isValidated = true ∧ mapping.mapped = values := by
  simp only [MappingState.validatedValues, Option.map_eq_some_iff, Option.filter_eq_some_iff, and_assoc]

/-- **What an operator validated changes by an operator alone.**  From a mapping that is validated on, its
values are those it had or those an operator's save has left, in every run in which no operator validates
the mapping a worker saves over after the worker read it. -/
theorem validated_values_kept {rest : MappingState} {before after : List MappingEvent}
    {values : MappedValues} (hrest : rest.parses.rows = [])
    (hbefore : (quoting readDecimal).run rest before = some s)
    (hvalid : s.validatedValues text = some values)
    (hsince : (quoting readDecimal).AllMeet NotValidatedSince s after)
    (hafter : (quoting readDecimal).run s after = some t) :
    ∃ now, t.validatedValues text = some now ∧
      (now = values ∨ LeftByOperator readDecimal text s after now) := by
  have hquiet : Guarded rest := by
    intro parse hparse
    rw [hrest] at hparse
    cases hparse
  have hguard : Guarded s :=
    Machine.run_keeps (fun _ _ _ hkeep hstep => step_keeps_guarded hkeep hstep) hquiet hbefore
  -- the invariant: workers' reads are guarded, and the mapping is validated
  have hstep : ∀ s event s', (Guarded s ∧ ∃ values, s.validatedValues text = some values) →
      NotValidatedSince s event → quoting readDecimal s event = some s' →
      (Guarded s' ∧ ∃ values, s'.validatedValues text = some values) ∧
        (s'.validatedValues text = s.validatedValues text ∨ ByOperator text s event) := by
    rintro s event s' ⟨hkeep, values, hvalues⟩ hmeets hstep
    obtain ⟨mapping, hfound, hmarked, rfl⟩ := validatedValues_eq_some.mp hvalues
    obtain ⟨⟨mapping', hfound', hmarked'⟩, hchange⟩ :=
      step_keeps_validated hkeep hmeets hstep hfound hmarked
    refine ⟨⟨step_keeps_guarded hkeep hstep, mapping'.mapped,
      validatedValues_eq_some.mpr ⟨mapping', hfound', hmarked', rfl⟩⟩, ?_⟩
    rcases hchange with hsame | hby
    · exact .inl (by simp only [MappingState.validatedValues, hsame, hfound])
    · exact .inr hby
  have hinv := Machine.run_keeps_of_meet
    (I := fun s => Guarded s ∧ ∃ values, s.validatedValues text = some values)
    (fun u event u' hu hmeets h => (hstep u event u' hu hmeets h).1)
    ⟨hguard, values, hvalid⟩ hsince hafter
  obtain ⟨now, hnow⟩ := hinv.2
  refine ⟨now, hnow, ?_⟩
  rcases Machine.run_changed_by hstep ⟨hguard, values, hvalid⟩ hsince hafter with
    hsame | ⟨earlier, event, later, u, u', hsplit, hearlier, hby, hevent, hleft⟩
  · exact .inl (Option.some.inj (hnow.symm.trans (hsame.trans hvalid)))
  · exact .inr ⟨earlier, event, later, u, u', hsplit, hearlier, hby, hevent, hleft.symm.trans hnow⟩

end Runs

/-! ## A row on its way -/

section Examples

/-- No mappings yet, and nothing under way. -/
def noMappings : MappingState := ⟨.empty, [], .empty, .empty⟩

def flatBar : ProductInput := { productName := "40X5 FB" }

/-- The operator's validation, with a price. -/
def operatorSays (request : ℕ) (price : ℚ) : MappingEvent :=
  .validated request { unitCost := some (some price) } 3

def MappingState.validatedPrice (s : MappingState) : Option (Option ℚ) :=
  (s.validatedValues flatBar.hashSource).map MappedValues.unitCost

/-- An operator corrects the price of a validated mapping while a worker looks it up. -/
theorem validated_values_kept_by_correction :
    ∃ s t values now, s.validatedValues "40X5 FB" = some values ∧ values.unitCost = some 12 ∧
      (quoting fun _ => none).run s
        [.lookedUp 1 flatBar, .opened 8 "40X5 FB", operatorSays 8 13] = some t ∧
      t.validatedValues "40X5 FB" = some now ∧ (now = values ∨ LeftByOperator (fun _ => none)
        "40X5 FB" s [.lookedUp 1 flatBar, .opened 8 "40X5 FB", operatorSays 8 13] now) := by
  have hrun : ((quoting fun _ => none).run noMappings
      [.reserved flatBar, .opened 7 "40X5 FB", operatorSays 7 12]).any fun s =>
        s.validatedPrice = some (some 12) &&
          decide ((quoting fun _ => none).AllMeet NotValidatedSince s
            [.lookedUp 1 flatBar, .opened 8 "40X5 FB", operatorSays 8 13]) &&
          ((quoting fun _ => none).run s
            [.lookedUp 1 flatBar, .opened 8 "40X5 FB", operatorSays 8 13]).isSome := by
    decide +kernel
  obtain ⟨s, hbefore, hs⟩ := Option.any_eq_true _ _ |>.mp hrun
  simp only [Bool.and_eq_true, decide_eq_true_eq] at hs
  obtain ⟨⟨hprice, hsince⟩, hafter⟩ := hs
  obtain ⟨values, hvalid, hcost⟩ := Option.map_eq_some_iff.mp hprice
  obtain ⟨t, hafter⟩ := Option.isSome_iff_exists.mp hafter
  obtain ⟨now, hnow, hkept⟩ := validated_values_kept rfl hbefore hvalid hsince hafter
  exact ⟨s, t, values, now, hvalid, hcost, hafter, hnow, hkept⟩

/-- A worker reads the reserved row, an operator validates it with a price of 12, and the worker's save
puts the model's 5 in its place; the mapping still counts as the operator's. -/
theorem stale_parse_overwrites :
    ∃ s t, (quoting fun _ => none).run noMappings
        [.reserved flatBar, .lookedUp 1 flatBar, .opened 7 "40X5 FB",
          .answered 1 [("unit_cost", .number 5)] [], operatorSays 7 12] = some s ∧
      quoting (fun _ => none) s (.saved 1) = some t ∧
      s.validatedPrice = some (some 12) ∧ t.validatedPrice = some (some 5) := by
  have hrun : ((quoting fun _ => none).run noMappings
      [.reserved flatBar, .lookedUp 1 flatBar, .opened 7 "40X5 FB",
        .answered 1 [("unit_cost", .number 5)] [], operatorSays 7 12]).any fun s =>
        s.validatedPrice = some (some 12) &&
          (quoting (fun _ => none) s (.saved 1)).any fun t =>
            t.validatedPrice = some (some 5) := by
    decide +kernel
  obtain ⟨s, hs, hstale⟩ := Option.any_eq_true _ _ |>.mp hrun
  obtain ⟨hprice, hsaved⟩ := Bool.and_eq_true_iff.mp hstale
  obtain ⟨t, ht, hnew⟩ := Option.any_eq_true _ _ |>.mp hsaved
  exact ⟨s, t, hs, ht, of_decide_eq_true hprice, of_decide_eq_true hnew⟩

end Examples

end Docketworks.Quoting
