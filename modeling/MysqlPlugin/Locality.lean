import MysqlPlugin.Views

set_option autoImplicit false

/-! # What a native depends on

A native that takes a handle looks at the object in the slot of that handle and at the list of scripts,
and of the object it never reads `queryQueue`, which is the worker's. So two calls on objects that
differ in what the worker has popped, in tables that otherwise may differ in everything but the list
of scripts, return the same value, do the same to the object and emit the same events, up to the
numbers of the buffers they allocate (`Natives.function_local`). -/

namespace MysqlPlugin

open Prog

/-! ## The same up to the numbers of buffers -/

def CharPtr.forget (p : CharPtr) : CharPtr := ⟨0, p.text⟩

def QueryInfo.forget (q : QueryInfo) : QueryInfo :=
  { q with query := q.query.forget, extraVars := q.extraVars.map CharPtr.forget }

/-- The event without the numbers of buffers, and without the queries thrown away with an object. -/
def Event.forget : Event → Event
  | .newString _ => .newString 0
  | .delete _ => .delete 0
  | .accepted conn entry => .accepted conn entry.forget
  | .closed conn slot _ results => .closed conn slot [] results
  | e => e

/-- The two events tell the same. -/
def Event.Twin (e e' : Event) : Prop := e.forget = e'.forget

/-- The object is the other one, some queries later. -/
def MySQL.Trails (o o' : MySQL) : Prop :=
  ∃ queue, o = { o' with queryQueue := queue } ∧
    queue.map QueryInfo.forget <:+ o'.queryQueue.map QueryInfo.forget

/-- Two strings of the same text. -/
def CharPtr.SameText (p p' : CharPtr) : Prop := p.text = p'.text

theorem CharPtr.SameText.forget {p p' : CharPtr} (h : p.SameText p') : p.forget = p'.forget :=
  congrArg (CharPtr.mk 0) h

theorem CharPtr.forget_of_rel {p p' : Option CharPtr} (h : Option.Rel CharPtr.SameText p p') :
    p.map CharPtr.forget = p'.map CharPtr.forget := by
  cases h with
  | none => rfl
  | some h => exact congrArg some h.forget

theorem QueryInfo.Alike.forget {q q' : QueryInfo} (h : QueryInfo.Alike CharPtr.SameText q q') :
    q.forget = q'.forget := by
  have hquery := h.query.forget
  have hvars := CharPtr.forget_of_rel h.extraVars
  simp only [QueryInfo.forget, hquery, hvars, h.resultId, h.extraId, h.type]

namespace MySQL

theorem Trails.refl (o : MySQL) : o.Trails o := ⟨_, rfl, List.suffix_rfl⟩

theorem Trails.trans {o o' o'' : MySQL} (h : o.Trails o') (h' : o'.Trails o'') : o.Trails o'' := by
  obtain ⟨queue, rfl, hsuffix⟩ := h
  obtain ⟨queue', rfl, hsuffix'⟩ := h'
  exact ⟨queue, rfl, hsuffix.trans hsuffix'⟩

/-- The traces are the same up to the numbers of buffers. -/
abbrev Twins : List Event → List Event → Prop := List.Forall₂ Event.Twin

theorem twins_refl (es : List Event) : Twins es es := List.forall₂_same.2 fun _ _ => rfl

theorem trails_emit (e : Event) : Steady Twins Trails (emit e : Method Unit) := .emit (twins_refl [e])

/-- What is left out is what the worker has popped, and the numbers of the buffers. -/
theorem trails_view : View Twins Trails CharPtr.SameText where
  event e := twins_refl [e]
  core := by
    rintro _ o ⟨queue, rfl, -⟩
    rfl
  update := by
    rintro _ o c ⟨queue, rfl, hsuffix⟩
    exact ⟨queue, rfl, hsuffix⟩
  logged := by
    rintro _ o line p _ ⟨queue, rfl, -⟩
    exact .doIf (trails_emit _)
  printed := by
    rintro _ o line ⟨queue, rfl, -⟩
    exact .doIf (trails_emit _)
  greeted := by
    rintro _ o env user ⟨queue, rfl, -⟩
    exact twins_refl _
  enqueue := by
    intro entry entry' hentry
    refine .get_bind fun o o' ho => Agree.bind_same (.emit ?_) fun _ => .modify ?_
    · obtain ⟨queue, rfl, -⟩ := ho
      exact .cons (congrArg (Event.accepted o'.conn) hentry.forget) .nil
    · rintro _ o ⟨queue, rfl, front, hfront⟩
      refine ⟨queue ++ [entry], rfl, front, ?_⟩
      simp only [List.map_append, List.map_cons, List.map_nil, hentry.forget, ← hfront,
        List.append_assoc]
  closed := by
    rintro _ o slot ⟨queue, rfl, -⟩
    exact .cons rfl .nil
  text h := h
  deleted _ := .cons rfl .nil

end MySQL

/-! ## The natives -/

namespace Natives

variable {N : ℕ} {h : Fin N}

/-- The slot of the handle is empty in both tables, or holds objects of which one is the other some
    queries later. -/
def Along (h : Fin N) (w w' : World N) : Prop := Option.Rel MySQL.Trails (w.my h) (w'.my h)

theorem along_of_trails {w w' : World N} {o o' : MySQL} (ho : w.my h = some o) (ho' : w'.my h = some o')
    (htrails : o.Trails o') : Along h w w' := by
  rw [Along, ho, ho']
  exact .some htrails

theorem Along.object {w w' : World N} (hw : Along h w w') {o : MySQL} (ho : w.my h = some o) :
    ∃ o', w'.my h = some o' ∧ o.Trails o' := by
  unfold Along at hw
  rw [ho] at hw
  generalize w'.my h = v' at hw
  cases hw with
  | some htrails => exact ⟨_, rfl, htrails⟩

theorem along_view (h : Fin N) : View MySQL.Twins MySQL.Trails CharPtr.SameText h (Along h) where
  object := MySQL.trails_view
  slot hh hw := by
    obtain rfl := Fin.ext (Int.ofNat.inj hh)
    exact hw
  set hh _ hv := by
    obtain rfl := Fin.ext (Int.ofNat.inj hh)
    simpa [Along, World.set] using hv
  alloc text := fun _ _ hw => .ok rfl hw (.cons rfl .nil)

/-- **A native depends on the object of its handle**, as far as it is not the worker's, and on no other
    slot of the table. -/
theorem function_local {name : NativeName} (env : Env) (amx : Memory) (params : List Cell)
    (hhandle : name.handle params = some (h : ℤ)) :
    Prog.Agree (List.Forall₂ Event.Twin) (Along h) Eq (name.function env amx params)
      (name.function env amx params) :=
  (along_view h).function env amx params hhandle

end Natives
end MysqlPlugin
