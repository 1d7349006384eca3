import ProxyTestbed.Backend.Launch
import ProxyTestbed.Proofs.World.Requests

/-!
# What launching a backend asks for

A launch makes a container, starts it, looks at it and at its port, and may remove it. It asks for nothing
else, however it ends: what these requests keep, with log records and sleeps, is kept by the launch.

* `keeps_checkListening`, `keeps_launch`: what one look at a backend keeps, and a whole launch.
-/

namespace ProxyTestbed

variable {σ τ : Type}

/-- A request of a launch. -/
def Request.isLaunch : Request τ → Bool
  | .docker (.create _) | .docker (.pullImage _) | .docker (.start _) => true
  | .docker (.inspect _) | .docker (.logs _ _) | .docker (.remove _) => true
  | r => r.isSocket

theorem Request.isLaunch_of_isSocket (r : Request τ) (h : r.isSocket = true) : r.isLaunch = true := by
  unfold isSocket at h
  split at h
  · rfl
  · rfl
  · rfl
  · rfl
  · cases h

namespace Backend

variable [Seconds τ] [Host σ τ] {R : World σ τ → World σ τ → Prop} [IsPreorder (World σ τ) R]
  (hask : ∀ r : Request τ, r.isLaunch = true → Keeps R (ask r : Act σ τ r.Answer))
  (hlogs : ∀ w w' : World σ τ, Logs w w' → R w w')

include hask

theorem keeps_refresh : Keeps (Beside R) (refresh : On σ τ (Backend τ) String) := by
  have hinspect (c : Container) :
      Keeps (Besides R) (world (docker (.inspect c)) : On σ τ (Backend τ) _) :=
    (hask _ rfl).world
  have hread {α : Type} (found : Except InspectionProblem α) :
      Keeps (Beside R) (inspected found : On σ τ (Backend τ) α) := by
    cases found with
    | ok a => exact .pure a
    | error p => exact .throw _
  exact keeps_object.beside.bind fun b => (hinspect _).reporting.beside.bind fun _ =>
    (hread _).bind fun _ => (hread _).bind fun _ => (keeps_change _).bind fun _ =>
      (hread _).bind fun _ => (keeps_change _).bind fun _ => .pure _

theorem keeps_lastLogs : Keeps (Besides R) (lastLogs : On σ τ (Backend τ) String) := by
  have hlogs (c : Container) (tail : LogTail) :
      Keeps (Besides R) (world (docker (.logs c tail)) : On σ τ (Backend τ) _) :=
    (hask _ rfl).world
  refine keeps_object.bind fun b => (hlogs _ _).attempt.bind fun r => ?_
  cases r with
  | ok content => exact .pure _
  | error e => exact .ite (.pure _) (.throw e)

include hlogs

theorem keeps_checkListening :
    Keeps (Beside R) (checkListening : On σ τ (Backend τ) (Except Unit Unit)) := by
  have hlistening (host : String) (port : Int) (timeout : τ) :
      Keeps R (Socket.isListening host port timeout : Act σ τ Bool) :=
    Socket.keeps_isListening (fun r h => hask r (r.isLaunch_of_isSocket h)) host port timeout
  unfold checkListening
  refine (keeps_refresh hask).bind fun status => keeps_object.beside.bind fun b => ?_
  refine .ite ((keeps_lastLogs hask).beside.bind fun _ => .throw_bind _ _) ?_
  split
  · exact .pure _
  · exact .pure _
  · refine (hlistening _ _ _).world.beside.bind fun up => .ite ?_ (.pure _)
    exact (keeps_change _).bind fun _ => (keeps_record_of hlogs _ _ _).world.beside.bind fun _ => .pure _

variable (hsleep : ∀ seconds : τ, Keeps R (sleep seconds : Act σ τ Unit))

include hsleep in
theorem keeps_waitUsual : Keeps (Beside R) (waitUsual : On σ τ (Backend τ) Unit) := by
  refine keeps_object.beside.bind fun b => (keeps_change _).bind fun _ => ?_
  refine (keeps_pollFor (fun seconds => (hsleep seconds).world.beside) _ _
    fun _ _ => keeps_checkListening hask hlogs).bind fun r => ?_
  cases r with
  | ok _ => exact .pure _
  | error _ => exact keeps_object.beside.bind fun _ => (keeps_lastLogs hask).beside.bind fun _ => .throw _

theorem keeps_remove : Keeps (Beside R) (remove : On σ τ (Backend τ) Unit) := by
  have hremove (c : Container) :
      Keeps (Besides R) (world (docker (.remove c)) : On σ τ (Backend τ) Unit) :=
    (hask _ rfl).world
  refine keeps_object.beside.bind fun b => .ite (.pure ()) ?_
  refine (keeps_record_of hlogs _ _ _).world.beside.bind fun _ => (hremove _).attempt.beside.bind fun r => ?_
  cases r with
  | ok _ => exact keeps_change _
  | error e => exact .ite (keeps_change _) (.throw_bind _ _)

omit [Seconds τ] in
theorem keeps_createContainer (plan : ContainerPlan) :
    Keeps R (createContainer plan : Act σ τ Container) := by
  have hcreate : Keeps R (docker (.create plan) : Act σ τ Container) :=
    hask _ rfl
  have hpull : Keeps R (docker (.pullImage plan.image) : Act σ τ Unit) :=
    hask _ rfl
  unfold createContainer
  refine hcreate.attempt.bind fun r => ?_
  cases r with
  | ok container => exact .pure container
  | error e =>
    exact .ite ((keeps_record_of hlogs _ _ _).bind fun _ => hpull.bind fun _ => hcreate) (.throw e)

theorem keeps_startOrRemove (b : Backend τ) : Keeps R (b.startOrRemove : Act σ τ Unit) := by
  have hstart : Keeps R (docker (.start b.container) : Act σ τ Unit) :=
    hask _ rfl
  have hremove : Keeps R (b.outcome remove : Act σ τ Unit) :=
    ((keeps_remove hask hlogs).start b).bind fun _ => .conclude _
  unfold startOrRemove
  refine hstart.attempt.bind fun r => ?_
  split
  · exact .pure ()
  · exact .ite ((keeps_record_of hlogs _ _ _).bind fun _ => hremove.bind fun _ => .throw _) (.throw _)
  · exact .throw _

include hsleep in
theorem keeps_waitOrRemove : Keeps (Beside R) (waitOrRemove : On σ τ (Backend τ) Unit) := by
  refine (keeps_waitUsual hask hlogs hsleep).attempt.bind fun r => ?_
  cases r with
  | ok _ => exact .pure ()
  | error e =>
    refine .ite ?_ (.throw e)
    exact keeps_object.beside.bind fun _ => (keeps_record_of hlogs _ _ _).world.beside.bind fun _ =>
      (keeps_remove hask hlogs).bind fun _ => .throw e

include hsleep in
theorem keeps_launch (hname : Keeps R (freshId : Act σ τ String)) (site : Site τ) (order : Order τ) :
    Keeps R (launch site order : Act σ τ (Backend τ)) := by
  have hpolicy : Keeps R (order.policyAt site.settings : Act σ τ (RetryPolicy τ)) := by
    unfold Order.policyAt
    split
    · exact .pure _
    · exact keeps_policyOr _
  have hname : Keeps R (freshName site.environmentId : Act σ τ String) :=
    hname.bind fun _ => .pure _
  refine hpolicy.bind fun policy => hname.bind fun name => (keeps_record_of hlogs _ _ _).bind fun _ => ?_
  refine (keeps_createContainer hask hlogs _).reporting.bind fun container => ?_
  refine (keeps_startOrRemove hask hlogs _).bind fun _ => ?_
  exact ((keeps_waitOrRemove hask hlogs hsleep).start _).bind fun _ =>
    (Keeps.conclude _).bind fun _ => .pure _

end Backend

end ProxyTestbed
