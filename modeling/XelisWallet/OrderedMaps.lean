import Mathlib.Data.List.AList

/-!
Association lists whose order matters.

The entries of an `AList` are in an order, which `replace` keeps. Such a list is determined by its
keys in order and by what it has at each of them.
-/

namespace XelisWallet.OrderedMaps

variable {α β : Type} [DecidableEq α]

lemma kreplace_cons_self (a : α) (b v : β) (l : List (Sigma fun _ : α => β)) :
    List.kreplace a b (⟨a, v⟩ :: l) = ⟨a, b⟩ :: l :=
  List.lookmap_cons_some _ _ (if_pos rfl)

lemma kreplace_cons_ne {a k : α} (h : a ≠ k) (b v : β) (l : List (Sigma fun _ : α => β)) :
    List.kreplace a b (⟨k, v⟩ :: l) = ⟨k, v⟩ :: List.kreplace a b l :=
  List.lookmap_cons_none _ _ (if_neg h)

lemma dlookup_kreplace (a : α) (b : β) (l : List (Sigma fun _ : α => β)) (c : α) :
    (List.kreplace a b l).dlookup c =
      if c = a then (l.dlookup a).map fun _ => b else l.dlookup c := by
  induction l with
  | nil => simp [List.kreplace]
  | cons p l ih =>
    obtain ⟨k, v⟩ := p
    by_cases hk : a = k
    · subst hk
      rw [kreplace_cons_self]
      by_cases hc : c = a
      · subst hc
        simp
      · simp [hc]
    · rw [kreplace_cons_ne hk, List.dlookup_cons_ne l ⟨k, v⟩ hk]
      by_cases hc : c = k
      · subst hc
        simp [Ne.symm hk]
      · simp [hc, ih]

lemma lookup_replace (a : α) (b : β) (s : AList fun _ : α => β) (c : α) :
    (s.replace a b).lookup c = if c = a then (s.lookup a).map fun _ => b else s.lookup c :=
  dlookup_kreplace a b s.entries c

lemma list_eq_of_keys_dlookup {l l' : List (Sigma fun _ : α => β)} (hl : l.NodupKeys)
    (hkeys : l.keys = l'.keys) (hlookup : ∀ a, l.dlookup a = l'.dlookup a) : l = l' := by
  induction l generalizing l' with
  | nil => exact (List.map_eq_nil_iff.mp hkeys.symm).symm
  | cons p l ih =>
    obtain ⟨k, v⟩ := p
    obtain _ | ⟨⟨k', v'⟩, l'⟩ := l'
    · cases hkeys
    obtain ⟨rfl, htail⟩ : k = k' ∧ l.keys = l'.keys := by simpa using hkeys
    obtain ⟨hk, hnodup⟩ := List.nodupKeys_cons.mp hl
    obtain rfl : v = v' := by simpa using hlookup k
    have hrest : ∀ a, l.dlookup a = l'.dlookup a := by
      intro a
      by_cases ha : a = k
      · subst ha
        rw [List.dlookup_eq_none.mpr hk, List.dlookup_eq_none.mpr (htail ▸ hk)]
      · simpa [ha] using hlookup a
    rw [ih hnodup htail hrest]

lemma eq_of_keys_lookup {s t : AList fun _ : α => β} (hkeys : s.keys = t.keys)
    (hlookup : ∀ a, s.lookup a = t.lookup a) : s = t :=
  AList.ext (list_eq_of_keys_dlookup s.nodupKeys hkeys hlookup)

end XelisWallet.OrderedMaps
