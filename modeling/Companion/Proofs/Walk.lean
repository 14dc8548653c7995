import Companion.Graph.Walk
import Mathlib.Data.List.Chain
import Mathlib.Logic.Relation
import Mathlib.Tactic.Lemma

/-!
# Walks without circles

Where no walk comes back to a place, the links are well-founded, and a walk no longer needs to
remember where it has been: the path from a place is the place, and then the path from wherever its
link leads. What lies on the path is exactly what can be reached.
-/

namespace Companion.Graph.Links

variable {α : Type} [DecidableEq α] (l : Links α)

/-- The link from `a` leads to `b`. -/
def Leads (a b : α) : Prop :=
  l.next a = some b

/-- No walk comes back to a place. -/
def IsAcyclic : Prop :=
  WellFounded fun b a => l.Leads a b

lemma walk_of_mem {seen : List α} {a : α} (h : a ∈ seen) : l.walk seen a = ([], some a) := by
  rw [walk, dif_pos h]

lemma walk_of_next_none {seen : List α} {a : α} (h : a ∉ seen) (hn : l.next a = none) :
    l.walk seen a = ([a], none) := by
  rw [walk, dif_neg h]
  split
  · rfl
  · next b hb => rw [hn] at hb; cases hb

lemma walk_of_next_some {seen : List α} {a b : α} (h : a ∉ seen) (hn : l.next a = some b) :
    l.walk seen a = (a :: (l.walk (a :: seen) b).1, (l.walk (a :: seen) b).2) := by
  rw [walk, dif_neg h]
  split
  · next hb => rw [hn] at hb; cases hb
  · next c hc =>
    have hbc : b = c := Option.some.inj (hn.symm.trans hc)
    subst hbc
    rfl

omit [DecidableEq α] in
lemma acc_of_next_none {a : α} (hn : l.next a = none) : Acc (fun b a => l.Leads a b) a := by
  refine ⟨a, fun b hb => ?_⟩
  rw [Leads, hn] at hb
  cases hb

omit [DecidableEq α] in
lemma acc_of_next_some {a b : α} (hn : l.next a = some b)
    (hb : Acc (fun b a => l.Leads a b) b) : Acc (fun b a => l.Leads a b) a := by
  refine ⟨a, fun c hc => ?_⟩
  have hbc : b = c := Option.some.inj (hn.symm.trans hc)
  exact hbc ▸ hb

/-- A walk that meets no place twice has an end. -/
lemma acc_of_walk_snd {seen : List α} {a : α} (h : (l.walk seen a).2 = none) :
    Acc (fun b a => l.Leads a b) a := by
  induction hk : unseen l.sources seen using Nat.strongRecOn generalizing seen a with
  | ind k ih =>
    by_cases ha : a ∈ seen
    · rw [l.walk_of_mem ha] at h
      cases h
    · cases hn : l.next a with
      | none => exact l.acc_of_next_none hn
      | some b =>
        rw [l.walk_of_next_some ha hn] at h
        have hlt := unseen_cons_lt (l.mem_sources a (by simp [hn])) ha
        exact l.acc_of_next_some hn (ih _ (hk ▸ hlt) h rfl)

lemma acc_of_repeated?_eq_none {a : α} (h : l.repeated? a = none) :
    Acc (fun b a => l.Leads a b) a :=
  l.acc_of_walk_snd h

variable {l}

omit [DecidableEq α] in
/-- From a place on a well-founded path no steps lead back to it. -/
lemma not_transGen_of_acc {a : α} (h : Acc (fun b a => l.Leads a b) a) :
    ¬Relation.TransGen l.Leads a a := by
  induction h with
  | intro a _ ih =>
    intro hc
    obtain ⟨b, hab, hba⟩ := Relation.TransGen.head'_iff.mp hc
    exact ih b hab (Relation.TransGen.tail' hba hab)

omit [DecidableEq α] in
lemma IsAcyclic.irrefl (h : l.IsAcyclic) (a : α) : ¬Relation.TransGen l.Leads a a :=
  not_transGen_of_acc (h.apply a)

/-- Places that cannot be reached need not be remembered. -/
lemma walk_congr {a : α} (h : Acc (fun b a => l.Leads a b) a) {seen seen' : List α}
    (hs : ∀ b, Relation.ReflTransGen l.Leads a b → b ∉ seen)
    (hs' : ∀ b, Relation.ReflTransGen l.Leads a b → b ∉ seen') :
    l.walk seen a = l.walk seen' a := by
  induction h generalizing seen seen' with
  | intro a hacc ih =>
    have ha := hs a .refl
    have ha' := hs' a .refl
    cases hn : l.next a with
    | none => rw [l.walk_of_next_none ha hn, l.walk_of_next_none ha' hn]
    | some b =>
      have hab : l.Leads a b := hn
      have fresh : ∀ {s : List α}, (∀ c, Relation.ReflTransGen l.Leads a c → c ∉ s) →
          ∀ c, Relation.ReflTransGen l.Leads b c → c ∉ a :: s := by
        intro s hs c hbc hc
        rcases List.mem_cons.mp hc with rfl | hc
        · exact not_transGen_of_acc ⟨_, hacc⟩ (Relation.TransGen.head' hab hbc)
        · exact hs c (Relation.ReflTransGen.head hab hbc) hc
      rw [l.walk_of_next_some ha hn, l.walk_of_next_some ha' hn, ih b hab (fresh hs) (fresh hs')]

lemma path_of_next_none {a : α} (hn : l.next a = none) : l.path a = [a] := by
  rw [path, l.walk_of_next_none List.not_mem_nil hn]

lemma IsAcyclic.path_of_next_some (h : l.IsAcyclic) {a b : α} (hn : l.next a = some b) :
    l.path a = a :: l.path b := by
  have hab : l.Leads a b := hn
  have same : l.walk [a] b = l.walk [] b := by
    refine walk_congr (h.apply b) (fun c hbc hc => ?_) (fun c _ => List.not_mem_nil)
    rw [List.mem_singleton.mp hc] at hbc
    exact h.irrefl a (Relation.TransGen.head' hab hbc)
  rw [path, l.walk_of_next_some List.not_mem_nil hn, same, path]

lemma path_eq_cons (a : α) : ∃ rest, l.path a = a :: rest := by
  cases hn : l.next a with
  | none => exact ⟨[], path_of_next_none hn⟩
  | some b => exact ⟨_, by rw [path, l.walk_of_next_some List.not_mem_nil hn]⟩

/-- The places after the first one of the path from `a`. -/
def beyond (l : Links α) (a : α) : List α :=
  (l.path a).tail

lemma path_eq_cons_beyond (a : α) : l.path a = a :: l.beyond a := by
  obtain ⟨rest, h⟩ := l.path_eq_cons a
  rw [beyond, h, List.tail_cons]

lemma beyond_of_next_none {a : α} (hn : l.next a = none) : l.beyond a = [] := by
  rw [beyond, path_of_next_none hn, List.tail_cons]

lemma IsAcyclic.beyond_of_next_some (h : l.IsAcyclic) {a b : α} (hn : l.next a = some b) :
    l.beyond a = b :: l.beyond b := by
  rw [beyond, h.path_of_next_some hn, List.tail_cons, path_eq_cons_beyond]

/-- What lies beyond a place is what can be reached in one step or more. -/
lemma IsAcyclic.mem_beyond_iff (h : l.IsAcyclic) {a b : α} :
    b ∈ l.beyond a ↔ Relation.TransGen l.Leads a b := by
  induction a using h.induction with
  | _ a ih =>
    cases hn : l.next a with
    | none =>
      rw [beyond_of_next_none hn]
      refine ⟨fun hb => absurd hb List.not_mem_nil, fun hb => ?_⟩
      obtain ⟨c, hac, -⟩ := Relation.TransGen.head'_iff.mp hb
      rw [Leads, hn] at hac
      cases hac
    | some c =>
      rw [h.beyond_of_next_some hn, List.mem_cons, ih c hn]
      constructor
      · rintro (rfl | hcb)
        · exact .single hn
        · exact .head hn hcb
      · intro hb
        obtain ⟨d, had, hdb⟩ := Relation.TransGen.head'_iff.mp hb
        have hcd : c = d := Option.some.inj (hn.symm.trans had)
        subst hcd
        rcases Relation.reflTransGen_iff_eq_or_transGen.mp hdb with hbc | hcb
        · exact Or.inl hbc
        · exact Or.inr hcb

lemma IsAcyclic.path_nodup (h : l.IsAcyclic) (a : α) : (l.path a).Nodup := by
  induction a using h.induction with
  | _ a ih =>
    cases hn : l.next a with
    | none => simp [path_of_next_none hn]
    | some b =>
      rw [h.path_of_next_some hn, List.nodup_cons]
      refine ⟨fun ha => h.irrefl a (h.mem_beyond_iff.mp ?_), ih b hn⟩
      rw [h.beyond_of_next_some hn, ← path_eq_cons_beyond]
      exact ha

/-- What lies ahead of a place lies ahead of the next one, and the place itself does not. -/
lemma IsAcyclic.notMem_of_next_some (h : l.IsAcyclic) {a b : α} (hn : l.next a = some b)
    {seen : List α} (fresh : ∀ c ∈ l.path a, c ∉ seen) : ∀ c ∈ l.path b, c ∉ a :: seen := by
  have hpath := h.path_of_next_some hn
  intro c hc hmem
  rcases List.mem_cons.mp hmem with rfl | hmem
  · have nodup := h.path_nodup c
    rw [hpath, List.nodup_cons] at nodup
    exact nodup.1 hc
  · exact fresh c (hpath ▸ List.mem_cons_of_mem a hc) hmem

/-- A search along the links of an acyclic graph is a search of the path. -/
lemma findFrom_nil {β : Type} (f : α → Option β) (a : α) :
    l.findFrom f [] a = (l.path a).findSome? f := by
  rw [findFrom_eq_findSome?, path]

/-- A walk depends on what was seen, not on the order in which it was. -/
lemma walk_congr_seen {seen seen' : List α} (h : ∀ b, b ∈ seen ↔ b ∈ seen') (a : α) :
    l.walk seen a = l.walk seen' a := by
  induction hk : unseen l.sources seen using Nat.strongRecOn generalizing seen seen' a with
  | ind k ih =>
    by_cases ha : a ∈ seen
    · rw [l.walk_of_mem ha, l.walk_of_mem ((h a).mp ha)]
    · have ha' : a ∉ seen' := fun hmem => ha ((h a).mpr hmem)
      cases hn : l.next a with
      | none => rw [l.walk_of_next_none ha hn, l.walk_of_next_none ha' hn]
      | some b =>
        have hlt := unseen_cons_lt (l.mem_sources a (by simp [hn])) ha
        have hcons : ∀ c, c ∈ a :: seen ↔ c ∈ a :: seen' := fun c => by simp [h c]
        rw [l.walk_of_next_some ha hn, l.walk_of_next_some ha' hn, ih _ (hk ▸ hlt) hcons b rfl]

lemma walk_eq_cons {seen : List α} {a : α} (h : a ∉ seen) :
    ∃ rest, (l.walk seen a).1 = a :: rest := by
  cases hn : l.next a with
  | none => exact ⟨[], by rw [l.walk_of_next_none h hn]⟩
  | some b => exact ⟨_, by rw [l.walk_of_next_some h hn]⟩

/-- A walk comes to no place that was seen. -/
lemma notMem_of_mem_walk {seen : List α} {a b : α} (h : b ∈ (l.walk seen a).1) : b ∉ seen := by
  induction hk : unseen l.sources seen using Nat.strongRecOn generalizing seen a with
  | ind k ih =>
    by_cases ha : a ∈ seen
    · rw [l.walk_of_mem ha] at h
      cases h
    · cases hn : l.next a with
      | none =>
        rw [l.walk_of_next_none ha hn] at h
        exact List.mem_singleton.mp h ▸ ha
      | some c =>
        rw [l.walk_of_next_some ha hn] at h
        have hlt := unseen_cons_lt (l.mem_sources a (by simp [hn])) ha
        rcases List.mem_cons.mp h with rfl | h
        · exact ha
        · exact fun hmem => ih _ (hk ▸ hlt) h rfl (List.mem_cons_of_mem a hmem)

/-- One more place that was seen takes nothing from a walk but itself, where all that its link
leads to was seen too. -/
lemma walk_cons_seen {seen : List α} {t u a : α} (hn : l.next t = some u) (ht : t ∉ seen)
    (hu : u ∈ t :: seen ∨ a = u) :
    (l.walk seen a).1 = (l.walk (t :: seen) a).1 ++
      if (l.walk (t :: seen) a).2 = some t then [t] else [] := by
  induction hk : unseen l.sources seen using Nat.strongRecOn generalizing seen a with
  | ind k ih =>
    by_cases ha : a ∈ seen
    · have hat : a ≠ t := fun heq => ht (heq ▸ ha)
      rw [l.walk_of_mem ha, l.walk_of_mem (List.mem_cons_of_mem t ha)]
      simp [hat]
    by_cases hat : a = t
    · subst hat
      have hmem : u ∈ a :: seen := hu.elim id fun hau => hau ▸ List.mem_cons_self
      rw [l.walk_of_next_some ha hn, l.walk_of_mem hmem, l.walk_of_mem List.mem_cons_self]
      simp
    have ha' : a ∉ t :: seen := by simp [hat, ha]
    cases hb : l.next a with
    | none =>
      rw [l.walk_of_next_none ha hb, l.walk_of_next_none ha' hb]
      simp
    | some b =>
      have hlt := unseen_cons_lt (l.mem_sources a (by simp [hb])) ha
      have swap : l.walk (a :: t :: seen) b = l.walk (t :: a :: seen) b :=
        walk_congr_seen (fun c => by simp only [List.mem_cons, or_left_comm]) b
      have ht' : t ∉ a :: seen := by simp [Ne.symm hat, ht]
      have hu' : u ∈ t :: a :: seen ∨ b = u := by
        rcases hu with hu | rfl
        · rcases List.mem_cons.mp hu with rfl | hu
          · exact Or.inl List.mem_cons_self
          · exact Or.inl (List.mem_cons_of_mem t (List.mem_cons_of_mem a hu))
        · exact Or.inl (List.mem_cons_of_mem t List.mem_cons_self)
      rw [l.walk_of_next_some ha hb, l.walk_of_next_some ha' hb, swap,
        ih _ (hk ▸ hlt) ht' hu' rfl, List.cons_append]

lemma beyond_eq_walk {a b : α} (hn : l.next a = some b) : l.beyond a = (l.walk [a] b).1 := by
  rw [beyond, path, l.walk_of_next_some List.not_mem_nil hn, List.tail_cons]

lemma repeated?_eq_walk {a b : α} (hn : l.next a = some b) :
    l.repeated? a = (l.walk [a] b).2 := by
  rw [repeated?, l.walk_of_next_some List.not_mem_nil hn]

lemma notMem_beyond (a : α) : a ∉ l.beyond a := by
  cases hn : l.next a with
  | none => simp [beyond_of_next_none hn]
  | some b =>
    rw [beyond_eq_walk hn]
    exact fun hmem => notMem_of_mem_walk hmem List.mem_cons_self

/-- The path from where a link leads goes on as from its start, and at most comes back to it. -/
lemma path_of_next_some {a b : α} (hn : l.next a = some b) :
    l.path b = l.beyond a ++ if l.repeated? a = some a then [a] else [] := by
  rw [beyond_eq_walk hn, repeated?_eq_walk hn, path]
  exact walk_cons_seen hn List.not_mem_nil (Or.inr rfl)

/-- A walk meets again what was seen before it or what it has come to itself. -/
lemma mem_of_walk_snd {seen : List α} {a r : α} (h : (l.walk seen a).2 = some r) :
    r ∈ seen ∨ r ∈ (l.walk seen a).1 := by
  induction hk : unseen l.sources seen using Nat.strongRecOn generalizing seen a with
  | ind k ih =>
    by_cases ha : a ∈ seen
    · rw [l.walk_of_mem ha] at h
      exact Or.inl (Option.some.inj h ▸ ha)
    · cases hn : l.next a with
      | none =>
        rw [l.walk_of_next_none ha hn] at h
        cases h
      | some b =>
        rw [l.walk_of_next_some ha hn] at h ⊢
        have hlt := unseen_cons_lt (l.mem_sources a (by simp [hn])) ha
        rcases ih _ (hk ▸ hlt) h rfl with hr | hr
        · rcases List.mem_cons.mp hr with rfl | hr
          · exact Or.inr List.mem_cons_self
          · exact Or.inl hr
        · exact Or.inr (List.mem_cons_of_mem a hr)

/-- The places of a walk with the one that it meets again are linked one to the next. -/
lemma isChain_walk (l : Links α) (seen : List α) (a : α) :
    ∃ rest, (l.walk seen a).1 ++ (l.walk seen a).2.toList = a :: rest ∧
      (a :: rest).IsChain l.Leads := by
  induction hk : unseen l.sources seen using Nat.strongRecOn generalizing seen a with
  | ind k ih =>
    by_cases ha : a ∈ seen
    · exact ⟨[], by rw [l.walk_of_mem ha]; rfl, .singleton a⟩
    · cases hn : l.next a with
      | none => exact ⟨[], by rw [l.walk_of_next_none ha hn]; rfl, .singleton a⟩
      | some b =>
        have hlt := unseen_cons_lt (l.mem_sources a (by simp [hn])) ha
        obtain ⟨rest, hrest, chain⟩ := ih _ (hk ▸ hlt) (a :: seen) b rfl
        exact ⟨b :: rest, by rw [l.walk_of_next_some ha hn, List.cons_append, hrest],
          .cons_cons hn chain⟩

omit [DecidableEq α] in
/-- From a place on a well-founded path no chain of links comes to the same place twice. -/
lemma nodup_of_isChain {a : α} (h : Acc (fun b a => l.Leads a b) a) {rest : List α}
    (chain : (a :: rest).IsChain l.Leads) : (a :: rest).Nodup := by
  induction h generalizing rest with
  | intro a hacc ih =>
    cases rest with
    | nil => exact List.pairwise_singleton _ a
    | cons b rest =>
      obtain ⟨hab, chain⟩ := List.isChain_cons_cons.mp chain
      refine List.nodup_cons.mpr ⟨fun hmem => ?_, ih b hab chain⟩
      have hba : Relation.ReflTransGen l.Leads b a :=
        chain.induction (Relation.ReflTransGen l.Leads b) _ (fun _ _ hxy hbx => hbx.tail hxy)
          (fun _ => .refl) a hmem
      exact not_transGen_of_acc ⟨a, hacc⟩ (Relation.TransGen.head' hab hba)

/-- A walk meets no place twice if and only if no chain of links from its start does. -/
lemma repeated?_eq_none_iff {a : α} :
    l.repeated? a = none ↔ ∀ rest, (a :: rest).IsChain l.Leads → (a :: rest).Nodup := by
  constructor
  · intro h rest chain
    exact nodup_of_isChain (l.acc_of_repeated?_eq_none h) chain
  · intro h
    cases hr : l.repeated? a with
    | none => rfl
    | some r =>
      obtain ⟨rest, hrest, chain⟩ := l.isChain_walk [] a
      have nodup := h rest chain
      rw [← hrest, show (l.walk [] a).2 = some r from hr] at nodup
      have hmem := (mem_of_walk_snd hr).resolve_left List.not_mem_nil
      exact absurd rfl ((List.nodup_append.mp nodup).2.2 r hmem r (by simp))

omit [DecidableEq α] in
/-- Links along which a number falls run in no circles. -/
lemma isAcyclic_of_rank (rank : α → Nat) (h : ∀ a b, l.next a = some b → rank b < rank a) :
    l.IsAcyclic :=
  Subrelation.wf (fun {b a} hab => h a b hab) (InvImage.wf rank Nat.lt_wfRel.wf)

end Companion.Graph.Links
