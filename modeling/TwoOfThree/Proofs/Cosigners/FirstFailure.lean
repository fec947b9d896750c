-- SUMMARY: What the count check and the traversal of the cosigners come to, in terms of each key by itself.
import TwoOfThree.Cosigners

/-!
# The first failure among the cosigners

The traversal of a list of keys succeeds if every key does, and then with their
results in order. Otherwise it reports the first key that fails, by its position,
together with the error of that key. What the keys behind it do plays no part.
-/

namespace TwoOfThree.Cosigners

/-- The item at this position fails with this error, and every item before it succeeds. -/
def FirstFailure (f : α → Except ε β) (items : List α) (position : Nat) (error : ε) : Prop :=
  items[position]?.map f = some (.error error) ∧
    ∀ earlier < position, ∃ b, items[earlier]?.map f = some (.ok b)

/-! ## The count check -/

theorem checkCount_eq_ok {items : List α} (h : items.length = count) :
    checkCount items = .ok items := if_pos h

theorem checkCount_eq_error {items : List α} (h : items.length ≠ count) :
    checkCount items = .error (.invalidInput (.keyCount items.length)) := if_neg h

/-! ## The traversal -/

variable {f : α → Except ExtendedKey.Error β}

theorem eachFrom_eq_ok_iff {position : Nat} {items : List α} {results : List β} :
    eachFrom f position items = .ok results ↔ items.map f = results.map .ok := by
  induction items generalizing position results with
  | nil => cases results <;> simp [eachFrom]
  | cons item rest ih =>
    cases hitem : f item with
    | error error => cases results <;> simp [eachFrom, hitem]
    | ok result =>
      simp only [eachFrom, hitem, List.map_cons]
      cases hrest : eachFrom f (position + 1) rest with
      | error error =>
        have hnone : ∀ tail : List β, rest.map f ≠ tail.map .ok := by
          intro tail h
          rw [ih.2 h] at hrest
          cases hrest
        cases results with
        | nil => simp [Except.map]
        | cons head tail => simp [Except.map, hnone]
      | ok results' =>
        have hrest' : rest.map f = results'.map .ok := ih.1 hrest
        cases results with
        | nil => simp [Except.map]
        | cons head tail =>
          have hinj : results'.map Except.ok = tail.map (Except.ok (ε := ExtendedKey.Error)) ↔
              results' = tail :=
            List.map_inj_right fun _ _ h => by cases h; rfl
          simp [Except.map, hrest', hinj]

theorem firstFailure_zero {item : α} {rest : List α} {error : ExtendedKey.Error}
    (h : f item = .error error) : FirstFailure f (item :: rest) 0 error :=
  ⟨by simp [h], by simp⟩

theorem FirstFailure.cons {item : α} {rest : List α} {result : β} {position : Nat}
    {error : ExtendedKey.Error} (hitem : f item = .ok result)
    (h : FirstFailure f rest position error) :
    FirstFailure f (item :: rest) (position + 1) error := by
  refine ⟨by simpa using h.1, ?_⟩
  intro earlier hlt
  cases earlier with
  | zero => exact ⟨result, by simp [hitem]⟩
  | succ earlier => simpa using h.2 earlier (by omega)

theorem firstFailure_of_eachFrom {items : List α} {position : Nat} {error : Error}
    (h : eachFrom f position items = .error error) :
    ∃ i cause, error = .keyDerivation (position + i) cause ∧ FirstFailure f items i cause := by
  induction items generalizing position error with
  | nil => cases h
  | cons item rest ih =>
    cases hitem : f item with
    | error cause =>
      simp only [eachFrom, hitem, Except.error.injEq] at h
      exact ⟨0, cause, h.symm, firstFailure_zero hitem⟩
    | ok result =>
      cases hrest : eachFrom f (position + 1) rest with
      | ok results => simp [eachFrom, hitem, hrest, Except.map] at h
      | error error' =>
        simp only [eachFrom, hitem, hrest, Except.map, Except.error.injEq] at h
        obtain ⟨i, cause, herror, hfirst⟩ := ih hrest
        refine ⟨i + 1, cause, ?_, hfirst.cons hitem⟩
        rw [← h, herror, Nat.add_right_comm, Nat.add_assoc]

theorem FirstFailure.tail {item : α} {rest : List α} {position : Nat} {error : ExtendedKey.Error}
    (h : FirstFailure f (item :: rest) (position + 1) error) :
    FirstFailure f rest position error := by
  refine ⟨by simpa using h.1, ?_⟩
  intro earlier hlt
  simpa using h.2 (earlier + 1) (by omega)

/-- What stands behind the first failure does not matter. -/
theorem FirstFailure.of_take_eq {items items' : List α} {position : Nat} {error : ExtendedKey.Error}
    (h : FirstFailure f items position error)
    (htake : items'.take (position + 1) = items.take (position + 1)) :
    FirstFailure f items' position error := by
  have hsame {i : Nat} (hi : i ≤ position) : items'[i]? = items[i]? := by
    rw [← List.getElem?_take_of_lt (Nat.lt_succ_of_le hi), htake,
      List.getElem?_take_of_lt (Nat.lt_succ_of_le hi)]
  refine ⟨?_, ?_⟩
  · rw [hsame (Nat.le_refl position)]
    exact h.1
  · intro earlier hlt
    rw [hsame (Nat.le_of_lt hlt)]
    exact h.2 earlier hlt

/-- The traversal reports the first failure, if there is one. -/
theorem eachFrom_of_firstFailure {items : List α} {position i : Nat} {cause : ExtendedKey.Error}
    (h : FirstFailure f items i cause) :
    eachFrom f position items = .error (.keyDerivation (position + i) cause) := by
  induction items generalizing position i with
  | nil => cases h.1
  | cons item rest ih =>
    cases i with
    | zero =>
      have hitem : f item = .error cause := by simpa using h.1
      simp [eachFrom, hitem]
    | succ i =>
      obtain ⟨result, hresult⟩ := h.2 0 (Nat.succ_pos i)
      have hitem : f item = .ok result := by simpa using hresult
      simp only [eachFrom, hitem, ih h.tail, Except.map]
      rw [Nat.add_right_comm, Nat.add_assoc]

/-- Items that all succeed do so in any order, and their results follow them. -/
theorem map_eq_ok_of_perm {items items' : List α} (h : items.Perm items') {results : List β}
    (hok : items.map f = results.map .ok) :
    ∃ results', items'.map f = results'.map .ok ∧ results.Perm results' := by
  induction h generalizing results with
  | nil => exact ⟨results, hok, .refl _⟩
  | cons item _ ih =>
    cases results with
    | nil => simp at hok
    | cons result rest =>
      obtain ⟨hitem, hrest⟩ := List.cons.inj hok
      obtain ⟨rest', hrest', hperm⟩ := ih hrest
      exact ⟨result :: rest', by simp [hitem, hrest'], hperm.cons result⟩
  | swap item other rest =>
    rcases results with _ | ⟨first, _ | ⟨second, tail⟩⟩
    · simp at hok
    · simp at hok
    · simp only [List.map_cons, List.cons.injEq] at hok
      exact ⟨second :: first :: tail, by simp [hok], .swap second first tail⟩
  | trans _ _ ih ih' =>
    obtain ⟨results', hok', hperm⟩ := ih hok
    obtain ⟨results'', hok'', hperm'⟩ := ih' hok'
    exact ⟨results'', hok'', hperm.trans hperm'⟩

theorem exists_map_eq_ok_iff {items : List α} :
    (∃ results : List β, items.map f = results.map .ok) ↔
      ∀ item ∈ items, ∃ result, f item = .ok result := by
  induction items with
  | nil => exact ⟨fun _ => nofun, fun _ => ⟨[], rfl⟩⟩
  | cons item rest ih =>
    rw [List.forall_mem_cons, ← ih]
    constructor
    · rintro ⟨results, h⟩
      cases results with
      | nil => cases h
      | cons result results' =>
        obtain ⟨hitem, hrest⟩ := List.cons.inj h
        exact ⟨⟨result, hitem⟩, results', hrest⟩
    · rintro ⟨⟨result, hitem⟩, results', hrest⟩
      exact ⟨result :: results', by rw [List.map_cons, hitem, hrest, List.map_cons]⟩

/-! ## Reading keys -/

theorem parse_eq_ok_iff {texts : List String} {keys : List ExtendedKey} :
    parse texts = .ok keys ↔
      texts.length = count ∧ texts.map ExtendedKey.parse = keys.map .ok := by
  by_cases hlen : texts.length = count
  · rw [parse, checkCount_eq_ok hlen, and_iff_right hlen]
    exact eachFrom_eq_ok_iff
  · rw [parse, checkCount_eq_error hlen]
    simp [hlen, Except.bind]

theorem length_of_parse {texts : List String} {keys : List ExtendedKey}
    (h : parse texts = .ok keys) : keys.length = count := by
  obtain ⟨hlen, hmap⟩ := parse_eq_ok_iff.1 h
  rw [← hlen, ← List.length_map ExtendedKey.parse, hmap, List.length_map]

theorem parse_of_firstFailure {texts : List String} (h : texts.length = count) {position : Nat}
    {cause : ExtendedKey.Error} (hfirst : FirstFailure ExtendedKey.parse texts position cause) :
    parse texts = .error (.keyDerivation position cause) := by
  have hfail : eachFrom ExtendedKey.parse 0 texts = _ := eachFrom_of_firstFailure hfirst
  rw [Nat.zero_add] at hfail
  rw [parse, checkCount_eq_ok h]
  exact hfail

theorem firstFailure_of_parse {texts : List String} (h : texts.length = count) {error : Error}
    (herror : parse texts = .error error) :
    ∃ position cause, error = .keyDerivation position cause ∧
      FirstFailure ExtendedKey.parse texts position cause := by
  rw [parse, checkCount_eq_ok h] at herror
  obtain ⟨i, cause, rfl, hfirst⟩ := firstFailure_of_eachFrom herror
  exact ⟨i, cause, by rw [Nat.zero_add], hfirst⟩

/-! ## Walking a path -/

theorem publicKeysAt_eq_error_of_length {keys : List ExtendedKey} (h : keys.length ≠ count)
    (path : Path) :
    publicKeysAt keys path = .error (.invalidInput (.keyCount keys.length)) := by
  rw [publicKeysAt, checkCount_eq_error h]
  rfl

theorem publicKeysAt_of_length {keys : List ExtendedKey} (h : keys.length = count) (path : Path) :
    publicKeysAt keys path = eachFrom (publicKeyAt path) 0 keys := by
  rw [publicKeysAt, checkCount_eq_ok h]
  rfl

theorem publicKeysAt_eq_ok_iff {keys : List ExtendedKey} {path : Path}
    {publicKeys : List PublicKey} :
    publicKeysAt keys path = .ok publicKeys ↔
      keys.length = count ∧ keys.map (publicKeyAt path) = publicKeys.map .ok := by
  by_cases hlen : keys.length = count
  · rw [publicKeysAt_of_length hlen, eachFrom_eq_ok_iff, and_iff_right hlen]
  · rw [publicKeysAt_eq_error_of_length hlen]
    simp [hlen]

theorem publicKeysAt_of_firstFailure {keys : List ExtendedKey} (h : keys.length = count)
    {path : Path} {position : Nat} {cause : ExtendedKey.Error}
    (hfirst : FirstFailure (publicKeyAt path) keys position cause) :
    publicKeysAt keys path = .error (.keyDerivation position cause) := by
  have hfail : eachFrom (publicKeyAt path) 0 keys = _ := eachFrom_of_firstFailure hfirst
  rw [Nat.zero_add] at hfail
  rw [publicKeysAt_of_length h]
  exact hfail

theorem firstFailure_of_publicKeysAt {keys : List ExtendedKey} (h : keys.length = count)
    {path : Path} {error : Error} (herror : publicKeysAt keys path = .error error) :
    ∃ position cause, error = .keyDerivation position cause ∧
      FirstFailure (publicKeyAt path) keys position cause := by
  rw [publicKeysAt_of_length h] at herror
  obtain ⟨i, cause, rfl, hfirst⟩ := firstFailure_of_eachFrom herror
  exact ⟨i, cause, by rw [Nat.zero_add], hfirst⟩

/-- The keys at the end of the walks of three cosigners, or else the first walk that fails. -/
theorem exists_publicKeysAt_or_firstFailure {keys : List ExtendedKey} (h : keys.length = count)
    (path : Path) :
    (∃ publicKeys, publicKeysAt keys path = .ok publicKeys) ∨
      ∃ position cause, FirstFailure (publicKeyAt path) keys position cause := by
  cases hkeys : publicKeysAt keys path with
  | ok publicKeys => exact .inl ⟨publicKeys, rfl⟩
  | error error =>
    obtain ⟨position, cause, _, hfirst⟩ := firstFailure_of_publicKeysAt h hkeys
    exact .inr ⟨position, cause, hfirst⟩

end TwoOfThree.Cosigners
