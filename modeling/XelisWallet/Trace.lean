import Mathlib.Tactic.Common

/-!
Logs whose entries are justified by what stands before them, or settled by what follows.

A log only grows at its end, so a fact about an entry and the entries before it is settled
when the entry is written, and a fact about what follows an entry stays true once it is.
-/

namespace XelisWallet.Trace

variable {α : Type*}

/-- Every entry of a log stands in the relation `J` to the entries before it. -/
def Justified (J : List α → α → Prop) (log : List α) : Prop :=
  ∀ pre e post, log = pre ++ e :: post → J pre e

/-- Every entry of a log stands in the relation `K` to the entries before and after it. -/
def Placed (K : List α → α → List α → Prop) (log : List α) : Prop :=
  ∀ pre e post, log = pre ++ e :: post → K pre e post

variable {J : List α → α → Prop} {K : List α → α → List α → Prop} {log : List α}

lemma justified_nil : Justified J [] := by
  intro pre e post h
  simp at h

lemma placed_nil : Placed K [] := by
  intro pre e post h
  simp at h

lemma split_append {sent pre post : List α} {e : α} (h : log ++ sent = pre ++ e :: post) :
    (∃ mid, log = pre ++ e :: mid ∧ post = mid ++ sent) ∨
      ∃ mid, pre = log ++ mid ∧ sent = mid ++ e :: post := by
  obtain ⟨mid, hlog, hmid⟩ | ⟨mid, hpre, hsent⟩ := List.append_eq_append_iff.mp h.symm
  · obtain _ | ⟨e', mid⟩ := mid
    · -- the entry is the first of the new ones
      rw [List.nil_append] at hmid
      rw [List.append_nil] at hlog
      exact .inr ⟨[], by rw [hlog, List.append_nil], hmid.symm⟩
    · rw [List.cons_append, List.cons.injEq] at hmid
      obtain ⟨rfl, rfl⟩ := hmid
      exact .inl ⟨mid, hlog, rfl⟩
  · exact .inr ⟨mid, hpre, hsent⟩

/-- To extend a justified log, justify each new entry by all that stands before it. -/
theorem Justified.append (h : Justified J log) {sent : List α}
    (hs : ∀ pre e post, sent = pre ++ e :: post → J (log ++ pre) e) :
    Justified J (log ++ sent) := by
  intro pre e post he
  obtain ⟨mid, hlog, -⟩ | ⟨mid, rfl, hsent⟩ := split_append he
  · exact h pre e mid hlog
  · exact hs mid e post hsent

/-- To extend a log whose entries are settled by what follows, settle each new one. -/
theorem Placed.append (h : Placed K log)
    (hmono : ∀ pre e post more, K pre e post → K pre e (post ++ more)) {sent : List α}
    (hs : ∀ pre e post, sent = pre ++ e :: post → K (log ++ pre) e post) :
    Placed K (log ++ sent) := by
  intro pre e post he
  obtain ⟨mid, hlog, rfl⟩ | ⟨mid, rfl, hsent⟩ := split_append he
  · exact hmono pre e mid sent (h pre e mid hlog)
  · exact hs mid e post hsent

end XelisWallet.Trace
