-- SUMMARY: Descendants as whole extended keys, and that their key material never depends on the note beside it.
import TwoOfThree.ExtendedKey.Derivation

/-!
# Descent

A child is an extended key of its own: beside its public key and chain code it has a
network, a depth, the fingerprint of its parent and its number, all of them written
anew at every step. What the fingerprint of a key is does not matter here, so it is a
parameter. `Node.walk` leaves most of this note out; that nothing is lost by it, and
that two keys with one public key and one chain code have the same descendants, is
shown step by step. Only the depth can make a difference: it grows by one with every
step, and a walk that would take it past the greatest one fails.
-/

namespace TwoOfThree.ExtendedKey

/-- What the descendants of a key are derived from. -/
def origin (key : ExtendedKey) : Curve.Point × FixedBytes 32 := (key.publicKey, key.chainCode)

variable (fingerprint : Curve.Point → UInt32)

/-! ## Descendants as extended keys -/

/-- A child with all that is noted of it. -/
def child (key : ExtendedKey) : ChildNumber → Except Error ExtendedKey
  | .hardened _ => .error .hardenedChild
  | .normal index =>
    match key.node.childPublicKey index with
    | .error error => .error (.curve error)
    | .ok publicKey =>
      if key.depth = Node.maxDepth then .error .depthExhausted
      else .ok {
        network := key.network
        depth := key.depth + 1
        parentFingerprint := fingerprint key.publicKey
        childNumber := .normal index
        chainCode := key.node.childChainCode index
        publicKey }

/-- The descendant at the end of a path. -/
def walk (key : ExtendedKey) : Path → Except Error ExtendedKey
  | [] => .ok key
  | step :: rest =>
    match key.child fingerprint step with
    | .error error => .error error
    | .ok next => next.walk rest

/-- What a step does if it succeeds. -/
theorem child_eq_ok_iff {key next : ExtendedKey} {step : ChildNumber} :
    key.child fingerprint step = .ok next ↔ ∃ index publicKey, step = .normal index ∧
      key.node.childPublicKey index = .ok publicKey ∧ key.depth ≠ Node.maxDepth ∧
      next = ⟨key.network, key.depth + 1, fingerprint key.publicKey, .normal index,
        key.node.childChainCode index, publicKey⟩ := by
  cases step with
  | hardened index => simp [child]
  | normal index =>
    cases hpublic : key.node.childPublicKey index with
    | error error => simp [child, hpublic]
    | ok publicKey =>
      by_cases hdepth : key.depth = Node.maxDepth
      · simp [child, hpublic, hdepth]
      · simp [child, hpublic, hdepth, eq_comm]

/-! ## The part that a walk needs -/

theorem node_child (key : ExtendedKey) (step : ChildNumber) :
    (key.child fingerprint step).map node = key.node.child step := by
  cases step with
  | hardened index => rfl
  | normal index =>
    simp only [child, Node.child]
    cases key.node.childPublicKey index with
    | error error => rfl
    | ok publicKey => by_cases hdepth : key.depth = Node.maxDepth <;> simp [hdepth, Except.map, node]

/-- A walk from node to node passes the nodes of the extended keys on the way. -/
theorem node_walk (key : ExtendedKey) (path : Path) :
    (key.walk fingerprint path).map node = key.node.walk path := by
  induction path generalizing key with
  | nil => rfl
  | cons step rest ih =>
    unfold walk Node.walk
    rw [← key.node_child fingerprint step]
    cases key.child fingerprint step with
    | error error => rfl
    | ok next => exact ih next

theorem descendant_eq (key : ExtendedKey) (path : Path) :
    key.descendant path = (key.walk fingerprint path).map ExtendedKey.publicKey := by
  rw [descendant, ← key.node_walk fingerprint path]
  cases key.walk fingerprint path <;> rfl

/-! ## How a walk ends -/

variable {key key' : ExtendedKey}

theorem depth_child {next : ExtendedKey} {step : ChildNumber}
    (h : key.child fingerprint step = .ok next) : next.depth.toNat = key.depth.toNat + 1 := by
  obtain ⟨index, publicKey, _, _, hdepth, rfl⟩ := (child_eq_ok_iff fingerprint).1 h
  have hlt := key.depth.toNat_lt
  have hne : key.depth.toNat ≠ 255 := fun heq => hdepth (UInt8.toNat_inj.1 heq)
  simp only [UInt8.toNat_add, UInt8.toNat_one]
  omega

/-- The depth counts the steps of a walk and never starts again from zero. -/
theorem depth_walk {last : ExtendedKey} {path : Path} (h : key.walk fingerprint path = .ok last) :
    last.depth.toNat = key.depth.toNat + path.length := by
  induction path generalizing key with
  | nil =>
    cases h
    rfl
  | cons step rest ih =>
    unfold walk at h
    cases hnext : key.child fingerprint step with
    | error error =>
      rw [hnext] at h
      cases h
    | ok next =>
      rw [hnext] at h
      rw [ih h, depth_child fingerprint hnext, List.length_cons, Nat.add_assoc, Nat.add_comm 1]

/-- Why a walk along a path can fail, by the depth of the key that it starts from: the path asks for
a hardened child, a step has no public key, or there is no room below the key for all the steps. -/
inductive Stops (depth : UInt8) (path : Path) : Error → Prop where
  | hardened {index : Fin hardenedBit} (mem : .hardened index ∈ path) :
      Stops depth path .hardenedChild
  | tweak : Stops depth path (.curve .tweakOutOfRange)
  | sum : Stops depth path (.curve .sumIsNeutral)
  | depth (deep : 255 < depth.toNat + path.length) : Stops depth path .depthExhausted

theorem childPublicKey_stops {node : Node} {index : Fin hardenedBit} {error : CurveError}
    (h : node.childPublicKey index = .error error) (depth : UInt8) (path : Path) :
    Stops depth path (.curve error) := by
  unfold Node.childPublicKey at h
  dsimp only at h
  split at h
  · cases h
    exact .tweak
  · split at h
    · cases h
      exact .sum
    · cases h

theorem child_stops {step : ChildNumber} {error : Error}
    (h : key.child fingerprint step = .error error) (rest : Path) :
    Stops key.depth (step :: rest) error := by
  cases step with
  | hardened index =>
    cases h
    exact .hardened List.mem_cons_self
  | normal index =>
    unfold child at h
    cases hpublic : key.node.childPublicKey index with
    | error cause =>
      simp only [hpublic, Except.error.injEq] at h
      exact h ▸ childPublicKey_stops hpublic _ _
    | ok publicKey =>
      simp only [hpublic] at h
      split at h
      · next hdepth =>
        cases h
        refine .depth ?_
        rw [hdepth, List.length_cons]
        exact Nat.lt_add_of_pos_right (Nat.succ_pos _)
      · cases h

theorem walk_stops {path : Path} {error : Error} (h : key.walk fingerprint path = .error error) :
    Stops key.depth path error := by
  induction path generalizing key with
  | nil => cases h
  | cons step rest ih =>
    unfold walk at h
    cases hnext : key.child fingerprint step with
    | error cause =>
      rw [hnext] at h
      cases h
      exact child_stops fingerprint hnext rest
    | ok next =>
      rw [hnext] at h
      cases ih h with
      | hardened mem => exact .hardened (List.mem_cons_of_mem step mem)
      | tweak => exact .tweak
      | sum => exact .sum
      | depth deep =>
        rw [depth_child fingerprint hnext, Nat.add_assoc, Nat.add_comm 1] at deep
        exact .depth deep

/-- A walk that is no longer than the depth leaves room for is not stopped by the depth. -/
theorem walk_ne_depthExhausted {path : Path} (h : key.depth.toNat + path.length ≤ 255) :
    key.walk fingerprint path ≠ .error .depthExhausted := by
  intro hstop
  cases walk_stops fingerprint hstop with
  | depth deep => exact absurd h (Nat.not_le.2 deep)

/-! ## Two walks from one origin -/

/-- Two results that agree but for the note, unless the depth stopped one of them. -/
inductive AgreeUpToDepth : Except Error ExtendedKey → Except Error ExtendedKey → Prop where
  | exhausted {result} : AgreeUpToDepth (.error .depthExhausted) result
  | exhausted' {result} : AgreeUpToDepth result (.error .depthExhausted)
  | failed {error} : AgreeUpToDepth (.error error) (.error error)
  | reached {last last'} (origin : last.origin = last'.origin) :
      AgreeUpToDepth (.ok last) (.ok last')

theorem childMac_congr (h : key.origin = key'.origin) (index : Fin hardenedBit) :
    key.node.childMac index = key'.node.childMac index := by
  obtain ⟨hpublic, hcode⟩ := Prod.mk.inj h
  simp [Node.childMac, node, hpublic, hcode]

theorem childPublicKey_congr (h : key.origin = key'.origin) (index : Fin hardenedBit) :
    key.node.childPublicKey index = key'.node.childPublicKey index := by
  have hpublic : key.node.publicKey = key'.node.publicKey := (Prod.mk.inj h).1
  simp [Node.childPublicKey, childMac_congr h, hpublic]

theorem childChainCode_congr (h : key.origin = key'.origin) (index : Fin hardenedBit) :
    key.node.childChainCode index = key'.node.childChainCode index :=
  Subtype.ext (congrArg (List.drop 32) (childMac_congr h index))

theorem child_agreeUpToDepth (h : key.origin = key'.origin) (step : ChildNumber) :
    AgreeUpToDepth (key.child fingerprint step) (key'.child fingerprint step) := by
  cases step with
  | hardened index => exact .failed
  | normal index =>
    simp only [child, ← childPublicKey_congr h]
    cases key.node.childPublicKey index with
    | error error => exact .failed
    | ok publicKey =>
      by_cases hdepth : key.depth = Node.maxDepth
      · simp only [if_pos hdepth]
        exact .exhausted
      · by_cases hdepth' : key'.depth = Node.maxDepth
        · simp only [if_pos hdepth']
          exact .exhausted'
        · simp only [if_neg hdepth, if_neg hdepth']
          exact .reached (congrArg (Prod.mk publicKey) (childChainCode_congr h index))

/-- The note is written anew at every step, and never reaches the key material. -/
theorem walk_agreeUpToDepth (h : key.origin = key'.origin) (path : Path) :
    AgreeUpToDepth (key.walk fingerprint path) (key'.walk fingerprint path) := by
  induction path generalizing key key' with
  | nil => exact .reached h
  | cons step rest ih =>
    have hchild := child_agreeUpToDepth fingerprint h step
    unfold walk
    generalize key.child fingerprint step = result at hchild ⊢
    generalize key'.child fingerprint step = result' at hchild ⊢
    cases hchild with
    | exhausted => exact .exhausted
    | exhausted' => exact .exhausted'
    | failed => exact .failed
    | reached horigin => exact ih horigin

/-- Where there is room for the whole path, the results agree but for the note. -/
theorem walk_origin {path : Path} (h : key.origin = key'.origin)
    (hdepth : key.depth.toNat + path.length ≤ 255)
    (hdepth' : key'.depth.toNat + path.length ≤ 255) :
    (key.walk fingerprint path).map origin = (key'.walk fingerprint path).map origin := by
  have hend := walk_agreeUpToDepth fingerprint h path
  have hne := walk_ne_depthExhausted fingerprint hdepth
  have hne' := walk_ne_depthExhausted fingerprint hdepth'
  generalize key.walk fingerprint path = result at hend hne ⊢
  generalize key'.walk fingerprint path = result' at hend hne' ⊢
  cases hend with
  | exhausted => exact absurd rfl hne
  | exhausted' => exact absurd rfl hne'
  | failed => rfl
  | reached horigin => exact congrArg Except.ok horigin

end TwoOfThree.ExtendedKey
