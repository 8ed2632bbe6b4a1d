import ClassLowering.Json.Reader

/-!
# Names of fields

A document that is read from a text has no two fields of one name: a field that comes again replaces the value
of the first. What is read goes through the tokens of the text and through the containers that are open, so
that both are followed step by step.
-/

namespace ClassLowering.Json

/-- No two fields of an object have one name. -/
def NamesDistinct : Json → Prop
  | .object fields => (fields.map Prod.fst).Nodup
  | _ => True

/-- What every step of a partial fold keeps, the fold keeps. -/
theorem foldlM_keeps {α β : Type} {step : β → α → Option β} (holds : β → Prop) (admits : α → Prop)
    (kept : ∀ before item after, holds before → admits item → step before item = some after → holds after)
    {items : List α} {before after : β} (start : holds before) (admitted : ∀ item ∈ items, admits item)
    (ran : items.foldlM step before = some after) : holds after := by
  induction items generalizing before with
  | nil =>
      cases ran
      exact start
  | cons item items ih =>
      obtain ⟨first, rest⟩ := List.forall_mem_cons.mp admitted
      rw [List.foldlM_cons] at ran
      obtain ⟨middle, stepped, ran⟩ := Option.bind_eq_some_iff.mp ran
      exact ih (kept _ _ _ start first stepped) rest ran

/-! ## Tokens -/

/-- A complete document that is a token has distinct names. -/
def Token.NamesDistinct : Token → Prop
  | .scalar document => document.NamesDistinct
  | _ => True

theorem Numeral.namesDistinct_of_read? {text : List Char} {document : Json}
    (found : read? text = some document) : document.NamesDistinct := by
  unfold read? at found
  split at found
  obtain ⟨_, _, found⟩ := Option.bind_eq_some_iff.mp found
  obtain ⟨_, _, found⟩ := Option.bind_eq_some_iff.mp found
  obtain ⟨exponent, _, found⟩ := Option.bind_eq_some_iff.mp found
  dsimp only at found
  cases exponent with
  | none =>
      obtain ⟨_, number⟩ := Option.ite_none_left_eq_some.mp found
      cases number
      trivial
  | some exponent =>
      dsimp only at found
      split at found
      · obtain ⟨_, number⟩ := Option.ite_none_left_eq_some.mp found
        cases number
        trivial
      · obtain ⟨_, number⟩ := Option.ite_none_left_eq_some.mp found
        cases number
        trivial

theorem Token.namesDistinct_of_ofWord? {word : List Char} {token : Token}
    (found : ofWord? word = some token) : token.NamesDistinct := by
  unfold ofWord? at found
  split at found
  · cases found
    trivial
  split at found
  · cases found
    trivial
  split at found
  · cases found
    trivial
  · obtain ⟨document, read, rfl⟩ := Option.map_eq_some_iff.mp found
    exact Numeral.namesDistinct_of_read? read

theorem Token.namesDistinct_of_mark? {c : Char} {token : Token} (found : mark? c = some token) :
    token.NamesDistinct := by
  unfold mark? at found
  split at found <;> cases found <;> trivial

/-- Between tokens, the next character adds a mark if it adds any token. -/
theorem Token.startAt?_keeps {tokens : List Token} {next : List Token × Lexing} {c : Char}
    (distinct : ∀ token ∈ tokens, token.NamesDistinct) (started : startAt? tokens c = some next) :
    ∀ token ∈ next.1, token.NamesDistinct := by
  unfold startAt? at started
  split at started
  · cases started
    exact distinct
  split at started
  · cases started
    exact distinct
  split at started
  · cases started
    exact distinct
  · obtain ⟨token, found, rfl⟩ := Option.map_eq_some_iff.mp started
    exact List.forall_mem_cons.mpr ⟨namesDistinct_of_mark? found, distinct⟩

theorem Token.step?_keeps {state next : List Token × Lexing} {c : Char}
    (distinct : ∀ token ∈ state.1, token.NamesDistinct) (stepped : step? state c = some next) :
    ∀ token ∈ next.1, token.NamesDistinct := by
  obtain ⟨tokens, lexing⟩ := state
  unfold step? at stepped
  cases lexing with
  | between => exact startAt?_keeps distinct stepped
  | word read =>
      dsimp only at stepped
      split at stepped
      · cases stepped
        exact distinct
      · obtain ⟨token, found, started⟩ := Option.bind_eq_some_iff.mp stepped
        exact startAt?_keeps (List.forall_mem_cons.mpr ⟨namesDistinct_of_ofWord? found, distinct⟩) started
  | string read =>
      dsimp only at stepped
      split at stepped
      · cases stepped
        exact List.forall_mem_cons.mpr ⟨trivial, distinct⟩
      split at stepped
      · cases stepped
        exact distinct
      split at stepped <;> cases stepped
      exact distinct
  | escape read =>
      dsimp only at stepped
      split at stepped
      · cases stepped
        exact distinct
      · obtain ⟨_, _, rfl⟩ := Option.map_eq_some_iff.mp stepped
        exact distinct
  | codeUnit read lead left value =>
      obtain ⟨_, _, stepped⟩ := Option.bind_eq_some_iff.mp stepped
      dsimp only at stepped
      split at stepped
      · obtain ⟨_, _, rfl⟩ := Option.map_eq_some_iff.mp stepped
        exact distinct
      · cases stepped
        exact distinct
  | pair read lead =>
      dsimp only at stepped
      split at stepped <;> cases stepped
      exact distinct
  | pairMark read lead =>
      dsimp only at stepped
      split at stepped <;> cases stepped
      exact distinct

theorem Token.namesDistinct_of_ofText? {text : String} {tokens : List Token}
    (split : ofText? text = some tokens) : ∀ token ∈ tokens, token.NamesDistinct := by
  obtain ⟨state, ran, ended⟩ := Option.bind_eq_some_iff.mp split
  have distinct : ∀ token ∈ state.1, token.NamesDistinct :=
    foldlM_keeps (fun state => ∀ token ∈ state.1, token.NamesDistinct) (fun _ => True)
      (fun _ _ _ held _ stepped => step?_keeps held stepped) nofun (fun _ _ => trivial) ran
  split at ended
  · cases ended
    exact fun token listed => distinct token (List.mem_reverse.mp listed)
  · obtain ⟨token, found, ended⟩ := Option.bind_eq_some_iff.mp ended
    cases ended
    intro other listed
    exact (List.forall_mem_cons.mpr ⟨namesDistinct_of_ofWord? found, distinct⟩) other
      (List.mem_reverse.mp listed)
  · cases ended

/-! ## Containers -/

/-- An open object has distinct names so far. -/
def OpenContainer.NamesDistinct : OpenContainer → Prop
  | .array _ => True
  | .object fields _ => (fields.map Prod.fst).Nodup

/-- Names are distinct in whatever is open or finished. -/
structure Reading.NamesDistinct (reading : Reading) : Prop where
  containers : ∀ container ∈ reading.containers, container.NamesDistinct
  finished : ∀ document, reading.expectation = .finished document → document.NamesDistinct

/-- A field that comes again does not come twice. -/
theorem names_setField (fields : List (String × Json)) (name : String) (value : Json) :
    (setField fields name value).map Prod.fst =
      if name ∈ fields.map Prod.fst then fields.map Prod.fst else fields.map Prod.fst ++ [name] := by
  have known : (fields.any fun field => field.1 == name) = true ↔ name ∈ fields.map Prod.fst := by
    simp only [List.any_eq_true, List.mem_map, beq_iff_eq]
  unfold setField
  by_cases listed : name ∈ fields.map Prod.fst
  · rw [if_pos listed, if_pos (known.mpr listed), List.map_map]
    refine List.map_congr_left fun field _ => ?_
    by_cases same : field.1 = name
    · simp only [Function.comp_apply, same, beq_self_eq_true, if_true]
    · simp only [Function.comp_apply, beq_eq_false_iff_ne.mpr same, Bool.false_eq_true, if_false]
  · rw [if_neg listed, if_neg fun found => listed (known.mp found), List.map_append]
    rfl

theorem nodup_setField {fields : List (String × Json)} (distinct : (fields.map Prod.fst).Nodup)
    (name : String) (value : Json) : ((setField fields name value).map Prod.fst).Nodup := by
  rw [names_setField]
  split
  · exact distinct
  · next fresh =>
    refine List.nodup_append.mpr ⟨distinct, List.pairwise_singleton .., fun other listed last found => ?_⟩
    rintro rfl
    rw [List.mem_singleton.mp found] at listed
    exact fresh listed

namespace Reading

variable {reading next : Reading} {containers : List OpenContainer} {document : Json} {token : Token}

theorem namesDistinct_of_place (placed : place document containers = some next)
    (distinct : ∀ container ∈ containers, container.NamesDistinct) (complete : document.NamesDistinct) :
    next.NamesDistinct := by
  unfold place at placed
  split at placed
  · cases placed
    refine ⟨nofun, fun other same => ?_⟩
    cases same
    exact complete
  · cases placed
    exact ⟨List.forall_mem_cons.mpr ⟨trivial, (List.forall_mem_cons.mp distinct).2⟩, nofun⟩
  · cases placed
    obtain ⟨inner, outer⟩ := List.forall_mem_cons.mp distinct
    exact ⟨List.forall_mem_cons.mpr ⟨nodup_setField inner .., outer⟩, nofun⟩
  · cases placed

theorem namesDistinct_of_enter {container : OpenContainer} {expectation : Expectation}
    (entered : enter container containers expectation = some next)
    (distinct : ∀ container ∈ containers, container.NamesDistinct) (empty : container.NamesDistinct)
    (unfinished : ∀ document, expectation ≠ .finished document) : next.NamesDistinct := by
  unfold enter at entered
  obtain ⟨_, same⟩ := Option.ite_none_right_eq_some.mp entered
  cases same
  exact ⟨List.forall_mem_cons.mpr ⟨empty, distinct⟩, fun document same => absurd same (unfinished document)⟩

theorem namesDistinct_of_value? (distinct : ∀ container ∈ containers, container.NamesDistinct)
    (admitted : token.NamesDistinct) (started : value? containers token = some next) :
    next.NamesDistinct := by
  cases token with
  | scalar document => exact namesDistinct_of_place started distinct admitted
  | string text => exact namesDistinct_of_place started distinct trivial
  | openArray => exact namesDistinct_of_enter started distinct trivial nofun
  | openObject => exact namesDistinct_of_enter started distinct List.nodup_nil nofun
  | _ => cases started

theorem namesDistinct_of_close? (distinct : ∀ container ∈ containers, container.NamesDistinct)
    (closed : close? containers token = some next) : next.NamesDistinct := by
  unfold close? at closed
  split at closed
  · exact namesDistinct_of_place closed (List.forall_mem_cons.mp distinct).2 trivial
  · obtain ⟨inner, outer⟩ := List.forall_mem_cons.mp distinct
    exact namesDistinct_of_place closed outer inner
  · cases closed

theorem namesDistinct_of_name? (distinct : ∀ container ∈ containers, container.NamesDistinct)
    (named : name? containers token = some next) : next.NamesDistinct := by
  unfold name? at named
  split at named
  · cases named
    obtain ⟨inner, outer⟩ := List.forall_mem_cons.mp distinct
    exact ⟨List.forall_mem_cons.mpr ⟨inner, outer⟩, nofun⟩
  · cases named

theorem step?_keeps (distinct : reading.NamesDistinct) (admitted : token.NamesDistinct)
    (stepped : step? reading token = some next) : next.NamesDistinct := by
  obtain ⟨containers, expectation⟩ := reading
  have inside := distinct.containers
  unfold step? at stepped
  cases expectation with
  | value => exact namesDistinct_of_value? inside admitted stepped
  | valueOrClose =>
      rcases Option.or_eq_some_iff.mp stepped with closed | ⟨_, started⟩
      · exact namesDistinct_of_close? inside closed
      · exact namesDistinct_of_value? inside admitted started
  | nameOrClose =>
      rcases Option.or_eq_some_iff.mp stepped with closed | ⟨_, named⟩
      · exact namesDistinct_of_close? inside closed
      · exact namesDistinct_of_name? inside named
  | name => exact namesDistinct_of_name? inside stepped
  | colon =>
      dsimp only at stepped
      split at stepped <;> cases stepped
      exact ⟨inside, nofun⟩
  | commaOrClose =>
      dsimp only at stepped
      split at stepped
      · cases stepped
        exact ⟨inside, nofun⟩
      · cases stepped
        exact ⟨inside, nofun⟩
      · exact namesDistinct_of_close? inside stepped
  | finished document => cases stepped

end Reading

/-- A document that is read from a text has distinct names. -/
theorem namesDistinct_of_read? {text : String} {document : Json} (found : read? text = some document) :
    document.NamesDistinct := by
  obtain ⟨tokens, split, found⟩ := Option.bind_eq_some_iff.mp found
  obtain ⟨reading, ran, ended⟩ := Option.bind_eq_some_iff.mp found
  have start : Reading.NamesDistinct {} := ⟨nofun, nofun⟩
  have distinct : reading.NamesDistinct :=
    foldlM_keeps Reading.NamesDistinct Token.NamesDistinct (fun _ _ _ => Reading.step?_keeps) start
      (Token.namesDistinct_of_ofText? split) ran
  split at ended
  · next finished =>
    cases ended
    exact distinct.finished _ finished
  · cases ended

end ClassLowering.Json
