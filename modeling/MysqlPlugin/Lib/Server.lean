import MysqlPlugin.Lib.Machine

set_option autoImplicit false

/-! # A server that answers one request at a time

Requests are accepted at any time and wait in line. The server executes the first of them, with success
or failure, and answers it before it executes the next one: what a successful request yields is
delivered, a failed one is reported. `Server.lts` is this server; a system that simulates it serves its
requests in turn (`inTurn_run`): its executions and answers form one exchange after the other, for the
requests in the order they were accepted. -/

namespace Server

variable {α β : Type} {result : α → β}

/-- The requests in line, and the one that is executed and not answered yet, with its outcome. -/
structure State (α : Type) where
  waiting : List α
  current : Option (α × Bool)

inductive Event (α β : Type)
  | accept (a : α)
  | execute (a : α) (ok : Bool)
  | deliver (b : β)
  | report (a : α)

/-- How a request is answered. -/
def answer (result : α → β) (a : α) : Bool → Event α β
  | true => .deliver (result a)
  | false => .report a

inductive Step (result : α → β) : State α → Event α β → State α → Prop
  | accept (waiting : List α) (current : Option (α × Bool)) (a : α) :
      Step result ⟨waiting, current⟩ (.accept a) ⟨waiting ++ [a], current⟩
  | execute (a : α) (waiting : List α) (ok : Bool) :
      Step result ⟨a :: waiting, none⟩ (.execute a ok) ⟨waiting, some (a, ok)⟩
  | answer (a : α) (waiting : List α) (ok : Bool) :
      Step result ⟨waiting, some (a, ok)⟩ (answer result a ok) ⟨waiting, none⟩

/-- The server, where a successful request yields its `result`. -/
def lts (result : α → β) : Lts (State α) Unit (Event α β) :=
  ⟨⟨[], none⟩, fun v _ es v' => ∃ e, es = [e] ∧ Step result v e v'⟩

/-- The runs of the server from its start. -/
abbrev Serves (result : α → β) : List (Event α β) → State α → Prop :=
  (lts result).Run (fun _ _ => True) (lts result).init

theorem Serves.step {tr : List (Event α β)} {v v' : State α} {e : Event α β}
    (h : Serves result tr v) (hstep : Step result v e v') : Serves result (tr ++ [e]) v' :=
  Lts.Run.step (a := ()) h trivial ⟨e, rfl, hstep⟩

/-! ## What the server looks like from outside -/

/-- The requests that were accepted. -/
def accepted (tr : List (Event α β)) : List α :=
  tr.filterMap fun | .accept a => some a | _ => none

/-- The executions and answers. -/
def answering (tr : List (Event α β)) : List (Event α β) :=
  tr.filter fun | .accept _ => false | _ => true

@[simp] theorem accepted_append (tr tr' : List (Event α β)) :
    accepted (tr ++ tr') = accepted tr ++ accepted tr' := List.filterMap_append ..

@[simp] theorem answering_append (tr tr' : List (Event α β)) :
    answering (tr ++ tr') = answering tr ++ answering tr' := List.filter_append ..

/-- A request with this outcome is executed and answered. -/
def exchange (result : α → β) (x : α × Bool) : List (Event α β) :=
  [.execute x.1 x.2, answer result x.1 x.2]

/-- An exchange that is not finished yet. -/
def begun : Option (α × Bool) → List (Event α β)
  | some (a, ok) => [.execute a ok]
  | none => []

/-- The trace is the exchanges `done`, one after the other, and one that may be under way, for the
    requests in the order they were accepted. -/
structure InTurn (result : α → β) (tr : List (Event α β)) (v : State α) (done : List (α × Bool)) :
    Prop where
  answers : answering tr = done.flatMap (exchange result) ++ begun v.current
  order : accepted tr = done.map Prod.fst ++ (v.current.toList.map Prod.fst ++ v.waiting)

theorem InTurn.step {tr : List (Event α β)} {v v' : State α} {e : Event α β}
    {done : List (α × Bool)} (h : InTurn result tr v done) (hstep : Step result v e v') :
    ∃ done', InTurn result (tr ++ [e]) v' done' := by
  obtain ⟨hanswers, horder⟩ := h
  cases hstep with
  | accept waiting current a =>
      refine ⟨done, ?_, ?_⟩
      · rw [answering_append, hanswers]
        exact List.append_nil _
      · rw [accepted_append, horder, List.append_assoc, List.append_assoc]
        rfl
  | execute a waiting ok =>
      refine ⟨done, ?_, ?_⟩
      · rw [answering_append, hanswers, List.append_assoc]
        rfl
      · rw [accepted_append, horder]
        exact List.append_nil _
  | answer a waiting ok =>
      have hes : answering [answer result a ok] = [answer result a ok] ∧
          accepted [answer result a ok] = [] := by
        cases ok <;> exact ⟨rfl, rfl⟩
      refine ⟨done ++ [(a, ok)], ?_, ?_⟩
      · rw [answering_append, hanswers, hes.1, List.flatMap_append, List.append_assoc]
        exact (List.append_nil _).symm
      · rw [accepted_append, hes.2, horder, List.append_nil, List.map_append, List.append_assoc]
        rfl

/-- **The server answers in turn.** -/
theorem inTurn_run {tr : List (Event α β)} {v : State α} (h : Serves result tr v) :
    ∃ done, InTurn result tr v done := by
  refine h.history (I := fun tr v => ∃ done, InTurn result tr v done) ?_ ⟨[], rfl, rfl⟩
  rintro tr v a es v' ⟨done, hturn⟩ - ⟨e, rfl, hstep⟩
  exact hturn.step hstep

end Server
