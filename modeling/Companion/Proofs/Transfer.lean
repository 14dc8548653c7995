import Companion.Proofs.Execution
import Mathlib.Data.List.Nodup

/-!
# Saving and restoring along a line

A save puts the fields of a line of artifacts, the farthest ancestor's first, and a restore gets
them in the opposite order of artifacts. The artifacts of a plain line share one container. Those of
a renderable line have a container each, wrapped around the one of the parent. Where no two fields
of a line have one key, each field gets back the value that it had.
-/

namespace Companion

namespace Runtime

variable {R : Runtime} {g : Group} {call : Method → Frame R → Option (Frame R)}

/-- The container after fields of an object are put. -/
def putAll (R : Runtime) (g : Group) (target : R.Object) (ts : List Transfer)
    (c : R.Container) : R.Container :=
  ts.foldl (fun c t => R.put (g.key t) t.suffix (target (g.place t)) c) c

/-- An object that has the fields at some places from another one. -/
def overwrite (source : R.Object) (places : List Place) (target : R.Object) : R.Object :=
  fun a => if a ∈ places then source a else target a

lemma overwrite_nil (source target : R.Object) : overwrite source [] target = target := by
  funext a
  exact if_neg List.not_mem_nil

lemma overwrite_append (source : R.Object) (places places' : List Place) (target : R.Object) :
    overwrite source (places ++ places') target =
      overwrite source places' (overwrite source places target) := by
  funext a
  by_cases ha : a ∈ places' <;> simp [overwrite, ha]

lemma exec_put_append {x : Frame R} {c : R.Container} (hc : x.state = some c)
    (ts : List Transfer) (rest : List Statement) :
    R.exec g call (ts.map .put ++ rest) x =
      R.exec g call rest
        { x with
          state := some (R.putAll g x.target ts c)
          moved := x.moved ++ ts.map g.place } := by
  induction ts generalizing x c with
  | nil => simp [putAll, ← hc]
  | cons t ts ih =>
    rw [List.map_cons, List.cons_append, exec_put hc, ih rfl]
    simp [putAll]

/-- Gets copy the fields of an object whose values are in the container. -/
lemma exec_get_append {x : Frame R} {c : R.Container} (hc : x.state = some c)
    {source : R.Object} {ts : List Transfer}
    (values : ∀ t ∈ ts, R.get (g.key t) t.suffix c = source (g.place t))
    (rest : List Statement) :
    R.exec g call (ts.map .get ++ rest) x =
      R.exec g call rest
        { x with
          target := overwrite source (ts.map g.place) x.target
          moved := x.moved ++ ts.map g.place } := by
  induction ts generalizing x with
  | nil => simp [overwrite_nil]
  | cons t ts ih =>
    have hvalue := values t List.mem_cons_self
    have hset : (fun a => if a = g.place t then source (g.place t) else x.target a) =
        overwrite source [g.place t] x.target := by
      funext a
      by_cases ha : a = g.place t <;> simp [overwrite, ha]
    have hrest := ih
      (x :=
        { x with
          target := overwrite source [g.place t] x.target
          moved := x.moved ++ [g.place t] })
      hc fun t ht => values t (List.mem_cons_of_mem _ ht)
    rw [List.map_cons, List.cons_append, exec_get hc, hvalue, hset, hrest]
    simp [← overwrite_append]

section Laws

variable (hR : R.Lawful)
include hR

lemma get_putAll_of_notMem (target : R.Object) {ts : List Transfer} {key : Text}
    (h : key ∉ ts.map g.key) (suffix : Text) (c : R.Container) :
    R.get key suffix (R.putAll g target ts c) = R.get key suffix c := by
  induction ts generalizing c with
  | nil => rfl
  | cons t ts ih =>
    rw [List.map_cons, List.mem_cons, not_or] at h
    rw [putAll, List.foldl_cons]
    exact (ih h.2 _).trans (hR.get_put_of_ne _ _ _ _ _ _ h.1)

lemma get_putAll (target : R.Object) {ts : List Transfer} (nodup : (ts.map g.key).Nodup)
    {t : Transfer} (ht : t ∈ ts) (c : R.Container) :
    R.get (g.key t) t.suffix (R.putAll g target ts c) = target (g.place t) := by
  induction ts generalizing c with
  | nil => cases ht
  | cons first ts ih =>
    rw [List.map_cons, List.nodup_cons] at nodup
    rw [putAll, List.foldl_cons]
    rcases List.mem_cons.mp ht with rfl | ht
    · exact (get_putAll_of_notMem hR target nodup.1 _ _).trans (hR.get_put_self _ _ _ _)
    · exact ih nodup.2 ht _

lemma unwrap_putAll (keyPrefix : Text) (target : R.Object) (ts : List Transfer)
    (c : R.Container) :
    R.unwrap keyPrefix (R.putAll g target ts c) = R.unwrap keyPrefix c := by
  induction ts generalizing c with
  | nil => rfl
  | cons t ts ih =>
    rw [putAll, List.foldl_cons]
    exact (ih _).trans (hR.unwrap_put _ _ _ _ _)

end Laws

/-! ### Plain lines -/

/-- The container after a plain line saved an object. -/
def plainSaved (R : Runtime) (target : R.Object) : List Group → R.Container → R.Container
  | [], c => c
  | g :: line, c => R.putAll g target g.transfers (plainSaved R target line c)

lemma run_plain_save {line : List Group} (hv : ∀ g ∈ line, Variant.of g.info = .plain)
    {x : Frame R} {c : R.Container} (hc : x.state = some c) :
    R.run .plain line .save x = some
      { x with
        state := some (R.plainSaved x.target line c)
        moved := x.moved ++ line.reverse.flatMap Group.places } := by
  induction line generalizing x with
  | nil => simp [run, plainSaved, ← hc]
  | cons g line ih =>
    have hg := hv g List.mem_cons_self
    have hparent := ih (fun h hh => hv h (List.mem_cons_of_mem g hh))
      (x := { target := x.target, moved := x.moved, state := x.state }) hc
    rw [run_cons hg, (Group.body_of_plain hg).1, exec_superSave hparent,
      ← List.append_nil (g.transfers.map Statement.put), exec_put_append rfl, exec]
    simp [plainSaved, Group.map_place_transfers]

lemma run_plain_restore {line : List Group} (hv : ∀ g ∈ line, Variant.of g.info = .plain)
    {x : Frame R} {c : R.Container} (hc : x.state = some c) {source : R.Object}
    (values : ∀ g ∈ line, ∀ t ∈ g.transfers,
      R.get (g.key t) t.suffix c = source (g.place t)) :
    R.run .plain line .restore x = some
      { x with
        target := overwrite source (line.flatMap Group.places) x.target
        moved := x.moved ++ line.flatMap Group.places } := by
  induction line generalizing x with
  | nil => simp [run, overwrite_nil]
  | cons g line ih =>
    have hg := hv g List.mem_cons_self
    have hparent := ih (fun h hh => hv h (List.mem_cons_of_mem g hh))
      (x :=
        { target := overwrite source g.places x.target
          moved := x.moved ++ g.places
          state := x.state })
      hc fun h hh => values h (List.mem_cons_of_mem g hh)
    rw [run_cons hg, (Group.body_of_plain hg).2, exec_returnIfNull hc,
      exec_get_append hc (values g List.mem_cons_self), Group.map_place_transfers,
      exec_superRestore hparent, exec]
    simp [overwrite_append]

/-- A plain line finds every field in the container that it saved into. -/
lemma get_plainSaved (hR : R.Lawful) (source : R.Object) {line : List Group}
    (nodup : (line.flatMap Group.keys).Nodup) (c : R.Container) :
    ∀ g ∈ line, ∀ t ∈ g.transfers,
      R.get (g.key t) t.suffix (R.plainSaved source line c) = source (g.place t) := by
  induction line with
  | nil => intro g hg; cases hg
  | cons first line ih =>
    rw [List.flatMap_cons, List.nodup_append] at nodup
    obtain ⟨hfirst, hline, hdisjoint⟩ := nodup
    intro g hg t ht
    -- The first artifact puts its fields last, under keys that no other artifact uses.
    rw [plainSaved]
    rcases List.mem_cons.mp hg with rfl | hg
    · exact get_putAll hR source hfirst ht _
    · have hkey : g.key t ∉ first.transfers.map first.key := by
        intro hmem
        exact hdisjoint _ hmem _
          (List.mem_flatMap.mpr ⟨g, hg, List.mem_map_of_mem ht⟩) rfl
      rw [get_putAll_of_notMem hR source hkey]
      exact ih hline g hg t ht

/-! ### Renderable lines -/

/-- What a renderable line gives back after it saved an object. -/
def renderableSaved (R : Runtime) (target : R.Object) : List Group → R.State → R.State
  | [], s => R.base s
  | g :: line, s =>
    R.up (R.putAll g target g.transfers (R.wrap g.keyPrefix (renderableSaved R target line s)))

lemma run_renderable_save {line : List Group}
    (hv : ∀ g ∈ line, Variant.of g.info = .renderable) {x : Frame R} {s : R.State}
    (hs : x.given = some s) :
    ∃ y, R.run .renderable line .save x = some y ∧ y.target = x.target ∧
      y.moved = x.moved ++ line.reverse.flatMap Group.places ∧
      y.result = some (R.renderableSaved x.target line s) := by
  induction line generalizing x with
  | nil => exact ⟨_, rfl, rfl, by simp, by simp [hs, renderableSaved]⟩
  | cons g line ih =>
    have hg := hv g List.mem_cons_self
    obtain ⟨y, hrun, htarget, hmoved, hresult⟩ := ih
      (fun h hh => hv h (List.mem_cons_of_mem g hh))
      (x := { target := x.target, moved := x.moved, given := x.given }) hs
    rw [run_cons hg, (Group.body_of_renderable hg).1, exec_wrapSuperSave hrun hresult,
      exec_put_append rfl, exec_returnState rfl]
    refine ⟨_, rfl, htarget, ?_, ?_⟩
    · simp [hmoved, Group.map_place_transfers]
    · simp [htarget, renderableSaved]

lemma run_renderable_restore (hR : R.Lawful) {line : List Group}
    (hv : ∀ g ∈ line, Variant.of g.info = .renderable)
    (nodup : (line.flatMap Group.keys).Nodup) {x : Frame R} {source : R.Object} {s : R.State}
    (hs : x.given = some (R.renderableSaved source line s)) :
    ∃ y, R.run .renderable line .restore x = some y ∧
      y.target = overwrite source (line.flatMap Group.places) x.target ∧
      y.moved = x.moved ++ line.flatMap Group.places := by
  induction line generalizing x with
  | nil => exact ⟨_, rfl, (overwrite_nil _ _).symm, by simp⟩
  | cons g line ih =>
    rw [List.flatMap_cons, List.nodup_append] at nodup
    have hg := hv g List.mem_cons_self
    have values : ∀ t ∈ g.transfers, R.get (g.key t) t.suffix
        (R.putAll g source g.transfers (R.wrap g.keyPrefix (R.renderableSaved source line s))) =
          source (g.place t) :=
      fun t ht => get_putAll hR source nodup.1 ht _
    obtain ⟨y, hrun, htarget, hmoved⟩ := ih
      (fun h hh => hv h (List.mem_cons_of_mem g hh)) nodup.2.1
      (x := { target := overwrite source g.places x.target
              moved := x.moved ++ g.places
              given := some (R.renderableSaved source line s) }) rfl
    rw [renderableSaved] at hs
    rw [run_cons hg, (Group.body_of_renderable hg).2, exec_castState hs (hR.down_up _),
      exec_getParent rfl, unwrap_putAll hR, hR.unwrap_wrap, exec_get_append rfl values,
      Group.map_place_transfers, exec_returnSuperRestore rfl hrun]
    refine ⟨_, rfl, ?_, ?_⟩
    · simp [htarget, overwrite_append]
    · simp [hmoved]

/-! ### Lines of one variant -/

/-- Whatever object is saved, the fields of a line move from its end to its beginning; and whatever
object is then restored from what was saved, they move from its beginning to its end, and the object
has these fields, and no others, as they were at the save. -/
def Restores (R : Runtime) (v : Variant) (line : List Group) : Prop :=
  ∀ (source target : R.Object) (a : R.Argument v),
    ∃ saved b restored,
      R.run v line .save (R.enter source v a) = some saved ∧
      saved.moved = line.reverse.flatMap Group.places ∧
      R.outcome v saved = some b ∧
      R.run v line .restore (R.enter target v b) = some restored ∧
      restored.moved = line.flatMap Group.places ∧
      (∀ g ∈ line, ∀ f ∈ g.emitted,
        restored.target (g.info.name, f.name) = source (g.info.name, f.name)) ∧
      ∀ place ∉ line.flatMap Group.places, restored.target place = target place

lemma overwrite_places (source target : R.Object) (line : List Group) :
    (∀ g ∈ line, ∀ f ∈ g.emitted, overwrite source (line.flatMap Group.places) target
        (g.info.name, f.name) = source (g.info.name, f.name)) ∧
      ∀ place ∉ line.flatMap Group.places,
        overwrite source (line.flatMap Group.places) target place = target place := by
  refine ⟨fun g hg f hf => if_pos ?_, fun place hplace => if_neg hplace⟩
  exact List.mem_flatMap.mpr ⟨g, hg, List.mem_map_of_mem hf⟩

lemma restores_of_nodup (hR : R.Lawful) {v : Variant} {line : List Group}
    (hv : ∀ g ∈ line, Variant.of g.info = v) (nodup : (line.flatMap Group.keys).Nodup) :
    R.Restores v line := by
  intro source target a
  cases v with
  | plain =>
    have hsave := run_plain_save hv (x := R.enter source .plain a) rfl
    have hrestore := run_plain_restore hv
      (x := R.enter target .plain (R.plainSaved source line a)) rfl
      (get_plainSaved hR source nodup a)
    exact ⟨_, _, _, hsave, by simp [enter], rfl, hrestore, by simp [enter],
      overwrite_places source target line⟩
  | renderable =>
    obtain ⟨saved, hsave, -, hmoved, hresult⟩ :=
      run_renderable_save hv (x := R.enter source .renderable a) rfl
    obtain ⟨restored, hrestore, htarget, hmoved'⟩ := run_renderable_restore hR hv nodup
      (x := R.enter target .renderable (R.renderableSaved source line a)) rfl
    refine ⟨saved, _, restored, hsave, hmoved, hresult, hrestore, hmoved', ?_⟩
    rw [htarget]
    exact overwrite_places source target line

end Runtime

end Companion
