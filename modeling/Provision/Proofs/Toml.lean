import Provision.Toml
import Mathlib.Data.List.Forall2

/-!
When two values of a document are the same: the keys of a table stand in no order, and it does not matter whether a
table or an array was written in one piece, by headers or by dotted keys.
-/

set_option autoImplicit false

namespace Provision.Toml

/-- The items of an array, also of one whose tables share a header. -/
def items? : Toml → Option (List Toml)
  | .array items => some items
  | .tables (row :: older) => some ((row :: older).reverse.map (.table .defined))
  | _ => none

inductive Same : Toml → Toml → Prop where
  | refl (t : Toml) : Same t t
  | array {t t' : Toml} {xs ys : List Toml} (left : t.items? = some xs) (right : t'.items? = some ys)
      (alike : List.Forall₂ Same xs ys) : Same t t'
  | table {m m' : Mark} {es es' fs : Entries} (order : es.Perm fs) (keys : fs.map Prod.fst = es'.map Prod.fst)
      (alike : List.Forall₂ Same (fs.map Prod.snd) (es'.map Prod.snd)) : Same (.table m es) (.table m' es')

def isPlain : Toml → Bool
  | .array _ | .table _ _ | .tables _ => false
  | _ => true

def isBare : Toml → Bool
  | .array [] | .table _ [] => true
  | _ => false

/-- A name can be written as the only key of a table with nothing behind it. -/
def unwrapped : Toml → Toml
  | .table m [(k, v)] => if v.isBare then .text k else .table m [(k, v)]
  | t => t

variable {t t' : Toml} {xs : List Toml} {m : Mark} {es es' fs : Entries}

theorem unwrapped_single {k : List Char} {v : Toml} :
    (table m [(k, v)]).unwrapped = if v.isBare then .text k else .table m [(k, v)] := rfl

theorem unwrapped_of_length (h : es.length ≠ 1) : (table m es).unwrapped = .table m es := by
  match es with
  | [] | _ :: _ :: _ => rfl
  | [_] => exact absurd rfl h

theorem isPlain_of_items? (h : t.items? = some xs) : t.isPlain = false := by
  cases t <;> simp_all [items?, isPlain]

theorem isBare_of_items? (h : t.items? = some xs) : t.isBare = xs.isEmpty := by
  cases t with
  | array items =>
    simp only [items?, Option.some.injEq] at h
    subst h
    cases items <;> rfl
  | tables rows =>
    cases rows with
    | nil => simp [items?] at h
    | cons row older =>
      simp only [items?, Option.some.injEq] at h
      subst h
      simp [isBare]
  | _ => simp [items?] at h

theorem unwrapped_of_items? (h : t.items? = some xs) : t.unwrapped = t := by
  cases t with
  | table m es => simp [items?] at h
  | _ => rfl

namespace Same

theorem length_eq (order : es.Perm fs) (keys : fs.map Prod.fst = es'.map Prod.fst) : es.length = es'.length := by
  simpa [order.length_eq] using congrArg List.length keys

theorem isPlain (h : t.Same t') : t.isPlain = t'.isPlain := by
  cases h with
  | refl => rfl
  | array left right => rw [isPlain_of_items? left, isPlain_of_items? right]
  | table => rfl

theorem eq_of_isPlain (h : t.Same t') (ht : t.isPlain = true) : t = t' := by
  cases h with
  | refl => rfl
  | array left => cases (isPlain_of_items? left).symm.trans ht
  | table => cases ht

theorem eq_plain_iff (h : t.Same t') {p : Toml} (hp : p.isPlain = true) : p = t ↔ p = t' := by
  constructor
  · rintro rfl
    exact h.eq_of_isPlain hp
  · rintro rfl
    exact (h.eq_of_isPlain (h.isPlain.trans hp)).symm

theorem isBare (h : t.Same t') : t.isBare = t'.isBare := by
  cases h with
  | refl => rfl
  | array left right alike =>
    rw [isBare_of_items? left, isBare_of_items? right]
    cases alike <;> rfl
  | @table m m' es es' fs order keys alike =>
    have hlen := length_eq order keys
    cases es <;> cases es' <;> simp_all [Toml.isBare]

theorem single_or (order : es.Perm fs) (keys : fs.map Prod.fst = es'.map Prod.fst)
    (alike : List.Forall₂ Same (fs.map Prod.snd) (es'.map Prod.snd)) :
    (∃ k v v', es = [(k, v)] ∧ es' = [(k, v')] ∧ v.isBare = v'.isBare) ∨ (es.length ≠ 1 ∧ es'.length ≠ 1) := by
  have hlen := length_eq order keys
  by_cases hone : es.length = 1
  · obtain ⟨⟨k, v⟩, rfl⟩ := List.length_eq_one_iff.mp hone
    obtain ⟨⟨k', v'⟩, rfl⟩ := List.length_eq_one_iff.mp (hlen ▸ hone)
    obtain rfl := List.perm_singleton.mp order.symm
    simp only [List.map_cons, List.map_nil, List.cons.injEq, and_true, List.forall₂_cons, List.Forall₂.nil] at keys alike
    exact .inl ⟨k, v, v', rfl, by rw [keys], alike.isBare⟩
  · exact .inr ⟨hone, hlen ▸ hone⟩

theorem unwrapped (h : t.Same t') : t.unwrapped.Same t'.unwrapped := by
  cases h with
  | refl => exact .refl _
  | array left right alike =>
    rw [unwrapped_of_items? left, unwrapped_of_items? right]
    exact .array left right alike
  | table order keys alike =>
    obtain ⟨k, v, v', rfl, rfl, hbare⟩ | ⟨hes, hes'⟩ := single_or order keys alike
    · rw [unwrapped_single, unwrapped_single, hbare]
      split
      · exact .refl _
      · exact .table order keys alike
    · rw [unwrapped_of_length hes, unwrapped_of_length hes']
      exact .table order keys alike

end Same

section Comparison

mutual

/-- Whether two values are one, found by comparing them part by part. -/
def beq : Toml → Toml → Bool
  | .text cs, .text cs' => cs == cs'
  | .integer n, .integer n' => n == n'
  | .float b, .float b' | .bool b, .bool b' => b == b'
  | .moment, .moment => true
  | .array ts, .array ts' => itemsBeq ts ts'
  | .table m es, .table m' es' => m == m' && entriesBeq es es'
  | .tables rows, .tables rows' => rowsBeq rows rows'
  | _, _ => false

def itemsBeq : List Toml → List Toml → Bool
  | [], [] => true
  | t :: ts, t' :: ts' => beq t t' && itemsBeq ts ts'
  | _, _ => false

def entriesBeq : List (List Char × Toml) → List (List Char × Toml) → Bool
  | [], [] => true
  | (k, t) :: es, (k', t') :: es' => k == k' && beq t t' && entriesBeq es es'
  | _, _ => false

def rowsBeq : List (List (List Char × Toml)) → List (List (List Char × Toml)) → Bool
  | [], [] => true
  | es :: rows, es' :: rows' => entriesBeq es es' && rowsBeq rows rows'
  | _, _ => false

end

mutual

theorem beq_eq : ∀ t t' : Toml, beq t t' = true → t = t'
  | .text _, t', h | .integer _, t', h | .float _, t', h | .bool _, t', h | .moment, t', h => by
    cases t' <;> simp_all [beq]
  | .array ts, t', h => by
    cases t' <;> simp only [beq, Bool.false_eq_true] at h
    rw [itemsBeq_eq ts _ h]
  | .table m es, t', h => by
    cases t' <;> simp only [beq, Bool.and_eq_true, beq_iff_eq, Bool.false_eq_true] at h
    rw [h.1, entriesBeq_eq es _ h.2]
  | .tables rows, t', h => by
    cases t' <;> simp only [beq, Bool.false_eq_true] at h
    rw [rowsBeq_eq rows _ h]

theorem itemsBeq_eq : ∀ ts ts' : List Toml, itemsBeq ts ts' = true → ts = ts'
  | [], [], _ => rfl
  | t :: ts, t' :: ts', h => by
    simp only [itemsBeq, Bool.and_eq_true] at h
    rw [beq_eq t t' h.1, itemsBeq_eq ts ts' h.2]
  | [], _ :: _, h | _ :: _, [], h => by simp [itemsBeq] at h

theorem entriesBeq_eq : ∀ es es' : List (List Char × Toml), entriesBeq es es' = true → es = es'
  | [], [], _ => rfl
  | (k, t) :: es, (k', t') :: es', h => by
    simp only [entriesBeq, Bool.and_eq_true, beq_iff_eq] at h
    rw [h.1.1, beq_eq t t' h.1.2, entriesBeq_eq es es' h.2]
  | [], _ :: _, h | _ :: _, [], h => by simp [entriesBeq] at h

theorem rowsBeq_eq : ∀ rows rows' : List (List (List Char × Toml)), rowsBeq rows rows' = true → rows = rows'
  | [], [], _ => rfl
  | es :: rows, es' :: rows', h => by
    simp only [rowsBeq, Bool.and_eq_true] at h
    rw [entriesBeq_eq es es' h.1, rowsBeq_eq rows rows' h.2]
  | [], _ :: _, h | _ :: _, [], h => by simp [rowsBeq] at h

end

end Comparison

end Provision.Toml
