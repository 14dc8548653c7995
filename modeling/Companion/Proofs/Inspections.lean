import Companion.Proofs.Recall
import Companion.Proofs.Survey

/-!
# What requests ask of the model

A request asks the model only for what the memo does not know, and what it finds out is added to
the memo. So the types that are known to be marked or unmarked are those that were asked for marked
fields, each once. Nothing that is known is lost, so a request that is made again asks nothing.
Where superclasses do not run in circles, the types that requests ask do not depend on their order.
-/

namespace Companion

namespace Query

/-- The type that is asked for marked fields. -/
def marked? : Query → Option QName
  | .marked n => some n
  | _ => none

/-- The types that questions ask for marked fields, in their order. -/
def inspections (queries : List Query) : List QName :=
  queries.filterMap marked?

lemma marked?_eq_some_iff {q : Query} {n : QName} : q.marked? = some n ↔ q = .marked n := by
  cases q <;> simp [marked?]

lemma inspections_append (queries queries' : List Query) :
    inspections (queries ++ queries') = inspections queries ++ inspections queries' :=
  List.filterMap_append

lemma mem_inspections {queries : List Query} {n : QName} :
    n ∈ inspections queries ↔ .marked n ∈ queries := by
  simp [inspections, marked?_eq_some_iff]

lemma length_inspections (queries : List Query) :
    (inspections queries).length = queries.countP isMarked := by
  rw [inspections, List.length_filterMap_eq_countP]
  refine List.countP_congr fun q _ => ?_
  cases q <;> simp [marked?, isMarked]

/-- Where one question alone tells a type, the type is told as often as the question is asked. -/
lemma count_filterMap {told : Query → Option QName} {q : Query} {n : QName}
    (h : ∀ q', told q' = some n ↔ q' = q) (queries : List Query) :
    (queries.filterMap told).count n = queries.count q := by
  rw [List.count_filterMap, List.count_eq_countP]
  refine List.countP_congr fun q' _ => ?_
  rw [beq_iff_eq, beq_iff_eq]
  exact h q'

lemma count_inspections (queries : List Query) (n : QName) :
    (inspections queries).count n = queries.count (.marked n) :=
  count_filterMap (fun _ => marked?_eq_some_iff) queries

end Query

namespace Memo

/-- Nothing that the first memo knows is lost or changed in the second. -/
structure Keeps (memo memo' : Memo) : Prop where
  marked : ∀ n artifact, memo.markedArtifact? n = some artifact →
    memo'.markedArtifact? n = some artifact
  unmarked : ∀ n, memo.isUnmarked n = true → memo'.isUnmarked n = true
  ancestors : ∀ n found, memo.ancestor? n = some found → memo'.ancestor? n = some found
  infos : ∀ n info, memo.info? n = some info → memo'.info? n = some info

namespace Keeps

variable {memo memo' memo'' : Memo} {n : QName}

lemma refl (memo : Memo) : memo.Keeps memo :=
  ⟨fun _ _ => id, fun _ => id, fun _ _ => id, fun _ _ => id⟩

lemma trans (h : memo.Keeps memo') (h' : memo'.Keeps memo'') : memo.Keeps memo'' where
  marked n artifact hn := h'.marked n artifact (h.marked n artifact hn)
  unmarked n hn := h'.unmarked n (h.unmarked n hn)
  ancestors n found hn := h'.ancestors n found (h.ancestors n found hn)
  infos n info hn := h'.infos n info (h.infos n info hn)

lemma addMarked (hn : memo.markedArtifact? n = none) (artifact : QName) :
    memo.Keeps (memo.addMarked n artifact) where
  marked a known ha := by
    have hne : a ≠ n := fun heq => by simp [heq, hn] at ha
    rw [markedArtifact?_addMarked, if_neg hne, ha]
  unmarked _ := id
  ancestors _ _ := id
  infos _ _ := id

lemma addUnmarked (memo : Memo) (n : QName) : memo.Keeps (memo.addUnmarked n) where
  marked _ _ := id
  unmarked a ha := (isUnmarked_addUnmarked_iff memo n a).mpr (Or.inr ha)
  ancestors _ _ := id
  infos _ _ := id

lemma addAncestor (hn : memo.ancestor? n = none) (found : Option QName) :
    memo.Keeps (memo.addAncestor n found) where
  marked _ _ := id
  unmarked _ := id
  ancestors a known ha := by
    have hne : a ≠ n := fun heq => by simp [heq, hn] at ha
    rw [ancestor?_addAncestor, if_neg hne, ha]
  infos _ _ := id

lemma addInfo {info : TypeInfo} (hn : memo.info? info.name = none) :
    memo.Keeps (memo.addInfo info) where
  marked _ _ := id
  unmarked _ := id
  ancestors _ _ := id
  infos a known ha := by
    have hne : info.name ≠ a := fun heq => by simp [← heq, hn] at ha
    rw [info?_addInfo, if_neg hne, ha]

end Keeps

/-- The second memo has what the first has, and an entry for each type that the questions asked for
marked fields. -/
structure Grows (memo : Memo) (queries : List Query) (memo' : Memo) : Prop extends
    Keeps memo memo' where
  recorded : memo'.recorded.Perm (Query.inspections queries ++ memo.recorded)
  nodup : memo.recorded.Nodup → memo'.recorded.Nodup

namespace Grows

variable {memo memo' memo'' : Memo} {queries queries' : List Query} {n : QName}

lemma refl (h : Query.inspections queries = []) : memo.Grows queries memo where
  toKeeps := .refl memo
  recorded := by rw [h, List.nil_append]
  nodup := id

lemma trans (h : memo.Grows queries memo') (h' : memo'.Grows queries' memo'') :
    memo.Grows (queries ++ queries') memo'' where
  toKeeps := h.toKeeps.trans h'.toKeeps
  recorded := by
    have hperm : (Query.inspections queries' ++ memo'.recorded).Perm
        (Query.inspections queries' ++ (Query.inspections queries ++ memo.recorded)) :=
      h.recorded.append_left _
    rw [Query.inspections_append]
    refine (h'.recorded.trans hperm).trans ?_
    rw [← List.append_assoc]
    exact List.perm_append_comm.append_right _
  nodup hn := h'.nodup (h.nodup hn)

lemma addMarked (hm : memo.markedArtifact? n = none) (hu : ¬memo.isUnmarked n = true)
    (artifact : QName) : memo.Grows [.marked n] (memo.addMarked n artifact) where
  toKeeps := .addMarked hm artifact
  recorded := .refl _
  nodup hnodup := by
    have hn : n ∉ memo.recorded := fun hmem => (mem_recorded.mp hmem).elim (absurd hm) hu
    exact List.nodup_cons.mpr ⟨hn, hnodup⟩

lemma addUnmarked (hm : memo.markedArtifact? n = none) (hu : ¬memo.isUnmarked n = true) :
    memo.Grows [.marked n] (memo.addUnmarked n) := by
  have hperm : (memo.addUnmarked n).recorded.Perm (n :: memo.recorded) := List.perm_middle
  have hn : n ∉ memo.recorded := fun hmem => (mem_recorded.mp hmem).elim (absurd hm) hu
  exact ⟨.addUnmarked memo n, hperm, fun hnodup =>
    hperm.nodup_iff.mpr (List.nodup_cons.mpr ⟨hn, hnodup⟩)⟩

lemma addAncestor (h : memo.Grows queries memo') (hn : memo'.ancestor? n = none)
    (found : Option QName) : memo.Grows queries (memo'.addAncestor n found) :=
  ⟨h.toKeeps.trans (.addAncestor hn found), h.recorded, h.nodup⟩

lemma addInfo (h : memo.Grows queries memo') {info : TypeInfo}
    (hn : memo'.info? info.name = none) : memo.Grows queries (memo'.addInfo info) :=
  ⟨h.toKeeps.trans (.addInfo hn), h.recorded, h.nodup⟩

end Grows

end Memo

/-- The types that a memo knows to be marked or unmarked are so in the model, none is both or left
alone, and they are those that some questions asked for marked fields, each once. -/
structure Memo.Tallies (m : TypeModel) (config : Config) (memo : Memo)
    (queries : List Query) : Prop where
  disjoint : ∀ n, memo.markedArtifact? n ≠ none → memo.isUnmarked n = false
  marked : ∀ n artifact, memo.markedArtifact? n = some artifact →
    config.isExcluded n = false ∧ m.declaresMarked n = true ∧
      artifact = Ancestry.artifactName m config n
  unmarked : ∀ n, memo.isUnmarked n = true →
    config.isExcluded n = false ∧ m.declaresMarked n = false
  kept : ∀ n, .marked n ∈ queries → config.isExcluded n = false
  once : ∀ n, queries.count (.marked n) ≤ 1
  total : memo.inspected = queries.countP Query.isMarked

lemma Memo.Faithful.tallies {m : TypeModel} {config : Config} {memo : Memo} {queries : List Query}
    (h : memo.Faithful m config) (grows : Memo.Grows {} queries memo) :
    memo.Tallies m config queries := by
  have hperm : memo.recorded.Perm (Query.inspections queries) :=
    grows.recorded.trans (by rw [show Memo.recorded {} = [] from rfl, List.append_nil])
  have hnodup : memo.recorded.Nodup := grows.nodup List.nodup_nil
  refine ⟨fun n hm => ?_, h.marked, h.unmarked, fun n hn => ?_, fun n => ?_, ?_⟩
  · obtain ⟨artifact, hartifact⟩ := Option.ne_none_iff_exists'.mp hm
    refine Bool.eq_false_iff.mpr fun hu => ?_
    have hfalse := (h.unmarked n hu).2
    rw [(h.marked n artifact hartifact).2.1] at hfalse
    cases hfalse
  · rcases Memo.mem_recorded.mp (hperm.mem_iff.mpr (Query.mem_inspections.mpr hn)) with hm | hu
    · obtain ⟨artifact, hartifact⟩ := Option.ne_none_iff_exists'.mp hm
      exact (h.marked n artifact hartifact).1
    · exact (h.unmarked n hu).1
  · rw [← Query.count_inspections]
    exact List.nodup_iff_count_le_one.mp (hperm.nodup_iff.mp hnodup) n
  · rw [← Memo.length_recorded, hperm.length_eq, Query.length_inspections]

namespace Ancestry

variable {m : TypeModel} {config : Config} {memo memo' : Memo}

lemma climb_grows (m : TypeModel) (config : Config) (seen : List QName) (memo : Memo) (n : QName) :
    memo.Grows (climb m config seen memo n).queries (climb m config seen memo n).answer.2 := by
  fun_induction climb m config seen memo n with
  | case1 seen memo n hn => exact .refl rfl
  | case2 seen memo n hn hx => exact .refl rfl
  | case3 seen memo n hn hx artifact ha => exact .refl rfl
  | case4 seen memo n hn hx ha hu found hf => exact .refl rfl
  | case5 seen memo n hn hx ha hu hf hs => exact .refl rfl
  | case6 seen memo n hn hx ha hu hf above hs ih =>
    have hasked : memo.Grows [.superclass n] memo := .refl rfl
    exact hasked.trans ih
  | case7 seen memo n hn hx ha hu hm => exact .addMarked ha hu _
  | case8 seen memo n hn hx ha hu hm hs =>
    have hasked : (memo.addUnmarked n).Grows [.superclass n] (memo.addUnmarked n) := .refl rfl
    exact (Memo.Grows.addUnmarked ha hu).trans hasked
  | case9 seen memo n hn hx ha hu hm above hs ih =>
    have hasked : (memo.addUnmarked n).Grows [.superclass n] (memo.addUnmarked n) := .refl rfl
    exact ((Memo.Grows.addUnmarked ha hu).trans hasked).trans ih

lemma resolve_grows (hf : memo.Faithful m config) (n : QName) :
    memo.Grows (resolve m config memo n).queries (resolve m config memo n).answer.2 := by
  have hasked : memo.Grows [.superclass n] memo := .refl rfl
  rw [resolve]
  cases ha : memo.ancestor? n with
  | some found => exact .refl rfl
  | none =>
    cases hs : m.superclass n with
    | none => exact hasked.addAncestor ha none
    | some above =>
      have hnone : (climb m config [n] memo above).answer.2.ancestor? n = none := by
        rw [Memo.ancestor?, (climb_climbs hf [n] above).ancestors_eq]
        exact ha
      exact (hasked.trans (climb_grows m config [n] memo above)).addAncestor hnone _

lemma typeInfo_grows (hf : memo.Faithful m config) (n : QName) :
    memo.Grows (typeInfo m config memo n).queries (typeInfo m config memo n).answer.2 := by
  rw [typeInfo]
  cases hi : memo.info? n with
  | some info => exact .refl rfl
  | none =>
    have hasked : memo.Grows [.assignable (.declared n []) config.renderableType] memo := .refl rfl
    have hnone : (resolve m config memo n).answer.2.info? n = none := by
      rw [Memo.info?, infos_resolve hf]
      exact hi
    exact (hasked.trans (resolve_grows hf n)).addInfo hnone

namespace Request

/-- The type that a request is about. -/
def name : Request → QName
  | .ancestor n => n
  | .info n => n

/-- What is asked of the model for a request. -/
def queries (m : TypeModel) (config : Config) (memo : Memo) : Request → List Query
  | .ancestor n => (resolve m config memo n).queries
  | .info n => (typeInfo m config memo n).queries

/-- What a memo knows for a request. -/
def known? (memo : Memo) : Request → Option Finding
  | .ancestor n => (memo.ancestor? n).map .ancestor
  | .info n => (memo.info? n).map .info

end Request

/-- What is asked of the model for requests that share a memo. -/
def questions (m : TypeModel) (config : Config) (memo : Memo) : List Request → List Query
  | [] => []
  | r :: rs => r.queries m config memo ++ questions m config (serve m config memo r).2 rs

lemma serve_grows (hf : memo.Faithful m config) (r : Request) :
    memo.Grows (r.queries m config memo) (serve m config memo r).2 := by
  cases r with
  | ancestor n => exact resolve_grows hf n
  | info n => exact typeInfo_grows hf n

lemma serve_grounded (hg : memo.Grounded m config) (r : Request) :
    (serve m config memo r).2.Grounded m config := by
  cases r with
  | ancestor n => exact (resolve_grounded hg n).2
  | info n =>
    rw [serve, typeInfo]
    split
    · exact hg
    · exact (resolve_grounded hg n).2.addInfo _

lemma serveAll_grows (hg : memo.Grounded m config) (rs : List Request) :
    memo.Grows (questions m config memo rs)
      (rs.foldl (fun memo r => (serve m config memo r).2) memo) := by
  induction rs generalizing memo with
  | nil => exact .refl rfl
  | cons r rs ih => exact (serve_grows hg.toFaithful r).trans (ih (serve_grounded hg r))

lemma memoAfter_keeps (m : TypeModel) (config : Config) (rs rs' : List Request) :
    (memoAfter m config rs).Keeps (memoAfter m config (rs ++ rs')) := by
  rw [memoAfter, memoAfter, List.foldl_append]
  exact (serveAll_grows (memoAfter_grounded rs) rs').toKeeps

/-- What is found for a request is known after it. -/
lemma known?_serve (hf : memo.Faithful m config) (r : Request) :
    r.known? (serve m config memo r).2 = some (serve m config memo r).1 := by
  cases r with
  | ancestor n =>
    rw [serve, Request.known?, ancestor?_resolve hf, if_pos rfl]
    rfl
  | info n =>
    rw [serve, Request.known?, typeInfo]
    cases hi : memo.info? n with
    | some info =>
      rw [hi]
      rfl
    | none =>
      rw [Memo.info?_addInfo, if_pos rfl]
      rfl

lemma known?_of_keeps (h : memo.Keeps memo') {r : Request} {found : Finding}
    (hr : r.known? memo = some found) : r.known? memo' = some found := by
  cases r with
  | ancestor n =>
    obtain ⟨ancestor, hn, rfl⟩ := Option.map_eq_some_iff.mp hr
    rw [Request.known?, h.ancestors n ancestor hn]
    rfl
  | info n =>
    obtain ⟨info, hn, rfl⟩ := Option.map_eq_some_iff.mp hr
    rw [Request.known?, h.infos n info hn]
    rfl

/-- What is known is found without the model. -/
lemma serve_of_known {r : Request} {found : Finding} (hr : r.known? memo = some found)
    (m : TypeModel) (config : Config) :
    serve m config memo r = (found, memo) ∧ r.queries m config memo = [] := by
  cases r with
  | ancestor n =>
    obtain ⟨ancestor, hn, rfl⟩ := Option.map_eq_some_iff.mp hr
    simp [serve, Request.queries, resolve, hn]
  | info n =>
    obtain ⟨info, hn, rfl⟩ := Option.map_eq_some_iff.mp hr
    simp [serve, Request.queries, typeInfo, hn]

/-- One type is ahead of another: a strict superclass that is not left alone, with none before it
that is left alone or marked. -/
def IsAhead (m : TypeModel) (config : Config) (n s : QName) : Prop :=
  ∃ before after, m.superclassLinks.beyond n = before ++ s :: after ∧
    (∀ b ∈ before, Passed m config b) ∧ config.isExcluded s = false

lemma mem_asked_iff {line : List QName} {s : QName} :
    s ∈ asked m config line ↔ ∃ before after, line = before ++ s :: after ∧
      (∀ b ∈ before, Passed m config b) ∧ config.isExcluded s = false := by
  induction line with
  | nil => simp [asked]
  | cons n line ih =>
    constructor
    · intro hs
      rw [asked] at hs
      split at hs
      · cases hs
      next hx =>
        have hx : config.isExcluded n = false := by simpa using hx
        split at hs
        · obtain rfl := List.mem_singleton.mp hs
          exact ⟨[], line, rfl, List.forall_mem_nil _, hx⟩
        next hm =>
          have hp : Passed m config n := ⟨hx, by simpa using hm⟩
          rcases List.mem_cons.mp hs with rfl | hs
          · exact ⟨[], line, rfl, List.forall_mem_nil _, hx⟩
          · obtain ⟨before, after, rfl, passed, hs⟩ := ih.mp hs
            exact ⟨n :: before, after, rfl, List.forall_mem_cons.mpr ⟨hp, passed⟩, hs⟩
    · rintro ⟨before, after, hline, passed, hs⟩
      cases before with
      | nil =>
        obtain ⟨rfl, rfl⟩ := List.cons.inj hline
        rw [asked, if_neg (by simp [hs])]
        split <;> exact List.mem_cons_self
      | cons b before =>
        obtain ⟨rfl, rfl⟩ := List.cons.inj hline
        obtain ⟨hp, passed⟩ := List.forall_mem_cons.mp passed
        rw [asked_of_passed hp]
        exact List.mem_cons_of_mem _ (ih.mpr ⟨before, after, rfl, passed, hs⟩)

lemma serve_extends (acyclic : m.superclassLinks.IsAcyclic) (hf : memo.Faithful m config)
    (closed : memo.Closed m config) (r : Request) :
    memo.Extends (serve m config memo r).2 (asked m config (m.superclassLinks.beyond r.name)) ∧
      (serve m config memo r).2.Closed m config := by
  cases r with
  | ancestor n =>
    exact ⟨resolve_extends acyclic hf closed n, resolve_closed acyclic hf closed n⟩
  | info n => exact typeInfo_extends acyclic hf closed n

lemma serveAll_extends (acyclic : m.superclassLinks.IsAcyclic) (hg : memo.Grounded m config)
    (closed : memo.Closed m config) (rs : List Request) :
    memo.Extends (rs.foldl (fun memo r => (serve m config memo r).2) memo)
      (rs.flatMap fun r => asked m config (m.superclassLinks.beyond r.name)) := by
  induction rs generalizing memo with
  | nil => exact .refl fun s hs => absurd hs List.not_mem_nil
  | cons r rs ih =>
    obtain ⟨hextends, hclosed⟩ := serve_extends acyclic hg.toFaithful closed r
    rw [List.flatMap_cons]
    exact hextends.trans (ih (serve_grounded hg r) hclosed)

/-- Without circles, the types that are known to be marked or unmarked after requests are those that
are ahead of a requested one. -/
lemma mem_recorded_memoAfter (acyclic : m.superclassLinks.IsAcyclic) (config : Config)
    (rs : List Request) (s : QName) :
    s ∈ (memoAfter m config rs).recorded ↔ ∃ r ∈ rs, IsAhead m config r.name s := by
  have hclosed : Memo.Closed m config {} :=
    ⟨fun _ h => absurd rfl h, fun _ h => absurd rfl h⟩
  have hextends := serveAll_extends acyclic .empty hclosed rs
  have hmem := hextends.mem s
  rw [List.mem_flatMap] at hmem
  rw [memoAfter, hmem]
  constructor
  · rintro (hnil | ⟨r, hr, hs⟩)
    · cases hnil
    · exact ⟨r, hr, mem_asked_iff.mp hs⟩
  · rintro ⟨r, hr, hs⟩
    exact Or.inr ⟨r, hr, mem_asked_iff.mpr hs⟩

/-- After any requests the memo knows exactly the types that were asked for marked fields, each
asked once and none left alone, and what the model says of them. Later requests change nothing that
is known, and a request that is made again is answered as before without the model. In an accepted
manifest the types are those that are ahead of a requested one. -/
theorem memoAfter_inspects (m : TypeModel) (config : Config) (rs : List Request) :
    (memoAfter m config rs).Tallies m config (questions m config {} rs) ∧
      (∀ rs', (memoAfter m config rs).Keeps (memoAfter m config (rs ++ rs'))) ∧
      (∀ before r after, rs = before ++ r :: after → ∀ m' : TypeModel,
        serve m' config (memoAfter m config rs) r =
            ((serve m config (memoAfter m config before) r).1, memoAfter m config rs) ∧
          r.queries m' config (memoAfter m config rs) = []) ∧
      ∀ (d : Manifest) (c : Catalog), Catalog.ofManifest d = .ok c → ∀ s,
        s ∈ (memoAfter c.model config rs).recorded ↔
          ∃ r ∈ rs, IsAhead c.model config r.name s := by
  refine ⟨?_, memoAfter_keeps m config rs, ?_, ?_⟩
  · exact (memoAfter_grounded rs).toFaithful.tallies (serveAll_grows .empty rs)
  · rintro before r after rfl m'
    have hgrounded : (memoAfter m config before).Grounded m config := memoAfter_grounded before
    have hserved := known?_serve hgrounded.toFaithful r
    have hafter : (serve m config (memoAfter m config before) r).2 =
        memoAfter m config (before ++ [r]) := by
      rw [memoAfter, memoAfter, List.foldl_append]
      rfl
    have hkeeps := memoAfter_keeps m config (before ++ [r]) after
    rw [hafter] at hserved
    rw [List.append_assoc] at hkeeps
    exact serve_of_known (known?_of_keeps hkeeps hserved) m' config
  · intro d c hc s
    have acyclic := (Catalog.wellFormed_of_ofManifest hc).2.acyclic
    exact mem_recorded_memoAfter acyclic config rs s

/-- A request for each of two lines of classes. -/
def sampleRequests : List Request :=
  [.info "p.Leaf", .ancestor "p.Dial"]

/-- Three classes are ahead of the two that are requested, and the first request is served again
without the model. -/
theorem sampleRequests_inspect :
    Catalog.ofManifest sampleManifest = .ok (Catalog.unchecked sampleManifest) ∧
      (∀ m', (Request.info "p.Leaf").queries m' {}
        (memoAfter (Catalog.unchecked sampleManifest).model {} sampleRequests) = []) ∧
      ∀ s : QName, s ∈ (["p.Gauge", "p.Base", "p.Middle"] : List QName) ↔
        ∃ r ∈ sampleRequests, IsAhead (Catalog.unchecked sampleManifest).model {} r.name s := by
  obtain ⟨-, -, again, ahead⟩ :=
    memoAfter_inspects (Catalog.unchecked sampleManifest).model {} sampleRequests
  have hrecorded : (memoAfter (Catalog.unchecked sampleManifest).model {} sampleRequests).recorded =
      (["p.Gauge", "p.Base", "p.Middle"] : List QName) := by decide +kernel
  refine ⟨sampleManifest_accepted, fun m' => (again [] _ _ rfl m').2, fun s => ?_⟩
  rw [← ahead _ _ sampleManifest_accepted s, hrecorded]

end Ancestry

end Companion
