import Swatchbook.Renderer
import Swatchbook.Proofs.Disk
import Mathlib.Logic.Relation

/-!
# Errands side by side

The errands of a stage are under way together, in any order of their requests.
Each of them only adds to what the others find, so each can be looked at by
itself: it is safe if it keeps to its targets on any disk that has grown in the
meantime. Then whatever is done in some order is safe, and so is any part of it.
-/

namespace Swatchbook

open Disk (Changes Grows)

-- ---------------------------------------------------------------------------
-- Executions
-- ---------------------------------------------------------------------------

/-- A moment of a run: what is under way, the stages that are still to come, and the disk. -/
structure Moment where
  jobs : List (Course (Except Fault Unit))
  later : List (List (Course (Except Fault Unit)))
  disk : Disk

namespace Moment

/-- One of the jobs makes its next request; or all of them have succeeded, and the next stage
begins. -/
inductive Step : Moment → Moment → Prop
  | ask {front back : List (Course (Except Fault Unit))} {request : Request}
      {next : request.Reply → Course (Except Fault Unit)} {reply : request.Reply}
      {later : List (List (Course (Except Fault Unit)))} {d e : Disk}
      (served : d.Serves request reply e) :
      Step ⟨front ++ .ask request next :: back, later, d⟩ ⟨front ++ next reply :: back, later, e⟩
  | stage {jobs stage : List (Course (Except Fault Unit))}
      {later : List (List (Course (Except Fault Unit)))} {d : Disk}
      (succeeded : ∀ job ∈ jobs, job = .done (.ok ())) :
      Step ⟨jobs, stage :: later, d⟩ ⟨stage, later, d⟩

/-- A run may stop at any moment: jobs may never have been begun, and others not be finished. -/
def Runs : Moment → Moment → Prop := Relation.ReflTransGen Step

structure Succeeded (m : Moment) : Prop where
  jobs : ∀ job ∈ m.jobs, job = .done (.ok ())
  later : m.later = []

end Moment

def Renderer.begin (r : Renderer) (guide : Styleguide) (d : Disk) : Moment :=
  ⟨[], (r.stages guide).map (·.map ExceptT.run), d⟩

-- ---------------------------------------------------------------------------
-- One errand among others
-- ---------------------------------------------------------------------------

namespace Course

variable {α β : Type} {targets : Path → Prop} {post post' : α → Disk → Prop} {d e : Disk}

/-- Whenever it makes a request, on a disk that others have added to, a course makes only changes
for its targets; and it ends in the way that is asked for. -/
def Safe (targets : Path → Prop) (post : α → Disk → Prop) : Course α → Disk → Prop
  | done result, d => post result d
  | ask request next, d => ∀ d', Grows d d' → ∀ reply e, d'.Serves request reply e →
      Changes targets d' e ∧ Safe targets post (next reply) e

def Lasting (post : α → Disk → Prop) : Prop :=
  ∀ {result d e}, Grows d e → post result d → post result e

theorem Safe.grows {course : Course α} (h : course.Safe targets post d) (hpost : Lasting post)
    (hgrows : Grows d e) : course.Safe targets post e := by
  cases course with
  | done result => exact hpost hgrows h
  | ask request next => exact fun d' hmore => h d' (hgrows.trans hmore)

theorem Safe.mono {course : Course α} (h : course.Safe targets post d)
    (hpost : ∀ {result d}, post result d → post' result d) : course.Safe targets post' d := by
  induction course generalizing d with
  | done result => exact hpost h
  | ask request next ih =>
    intro d' hgrows reply e hserved
    obtain ⟨hchanges, hrest⟩ := h d' hgrows reply e hserved
    exact ⟨hchanges, ih reply hrest⟩

theorem Safe.bind {course : Course α} {next : α → Course β} {post : β → Disk → Prop}
    (h : course.Safe targets (fun result => (next result).Safe targets post) d) :
    (course >>= next).Safe targets post d := by
  induction course generalizing d with
  | done result => exact h
  | ask request further ih =>
    intro d' hgrows reply e hserved
    obtain ⟨hchanges, hrest⟩ := h d' hgrows reply e hserved
    exact ⟨hchanges, ih reply hrest⟩

theorem Asks.safe {rule : Request → Prop} {course : Course α} (h : course.Asks rule)
    (hrule : ∀ {request d reply e}, rule request → d.Serves request reply e →
      Changes targets d e) (hgrows : Grows d e) : course.Safe targets (fun _ => Grows d) e := by
  induction course generalizing e with
  | done result => exact hgrows
  | ask request next ih =>
    intro d' hmore reply e' hserved
    have hchanges := hrule h.1 hserved
    exact ⟨hchanges, ih reply (h.2 reply) ((hgrows.trans hmore).trans hchanges.toGrows)⟩

end Course

-- ---------------------------------------------------------------------------
-- Requests
-- ---------------------------------------------------------------------------

namespace Disk

variable {targets : Path → Prop} {target : Path} {d e : Disk} {request : Request}
  {reply : request.Reply}

def Written (d : Disk) (p : Path) : Prop := ∃ handle : Handle, d.look p = some handle.thing

theorem Written.grows (h : d.Written target) (hgrows : Grows d e) : e.Written target := by
  obtain ⟨handle, hlook⟩ := h
  exact ⟨handle, hgrows.look hlook⟩

end Disk

-- ---------------------------------------------------------------------------
-- Errands
-- ---------------------------------------------------------------------------

namespace Errand

variable {ε α β : Type} {targets : Path → Prop} {target : Path} {d : Disk}

/-- A course that ends in the way that is asked for if it does not fail. -/
def Safe (targets : Path → Prop) (post : α → Disk → Prop) (errand : ExceptT ε Course α)
    (d : Disk) : Prop :=
  errand.run.Safe targets (fun result e => ∀ a, result = .ok a → post a e) d

end Errand

-- ---------------------------------------------------------------------------
-- Runs
-- ---------------------------------------------------------------------------

namespace Moment

variable {targets : Path → Prop} {p : Path} {m n : Moment}

structure Safe (targets : Path → Prop) (m : Moment) : Prop where
  jobs : ∀ job ∈ m.jobs, job.Safe targets (fun _ _ => True) m.disk
  later : ∀ stage ∈ m.later, ∀ job ∈ stage, ∀ d, job.Safe targets (fun _ _ => True) d

/-- The job that makes a request stays safe by itself, and the others because the disk has only
grown. -/
theorem Safe.step (h : Safe targets m) (hstep : Step m n) :
    Changes targets m.disk n.disk ∧ Safe targets n := by
  cases hstep with
  | @ask front back request next reply later d e served =>
    obtain ⟨hjobs, hlater⟩ := h
    simp only [List.forall_mem_append, List.forall_mem_cons] at hjobs
    obtain ⟨hfront, hjob, hback⟩ := hjobs
    obtain ⟨hchanges, hnext⟩ := hjob d (.refl d) reply e served
    refine ⟨hchanges, ?_, hlater⟩
    simp only [List.forall_mem_append, List.forall_mem_cons]
    exact ⟨fun job hm => (hfront job hm).grows (fun _ _ => trivial) hchanges.toGrows, hnext,
      fun job hm => (hback job hm).grows (fun _ _ => trivial) hchanges.toGrows⟩
  | stage succeeded =>
    obtain ⟨hstage, hlater⟩ := List.forall_mem_cons.mp h.later
    exact ⟨.refl _ _, fun job hm => hstage job hm _, hlater⟩

/-- A safe job that has written a path when it succeeds. -/
def Delivers (targets : Path → Prop) (p : Path) (job : Course (Except Fault Unit)) (d : Disk) :
    Prop :=
  job.Safe targets (fun result e => result = .ok () → e.Written p) d

/-- A path is written, or will be by a job that is under way or still to come. -/
inductive Due (targets : Path → Prop) (p : Path) (m : Moment) : Prop
  | written (there : m.disk.Written p)
  | underway {job : Course (Except Fault Unit)} (mem : job ∈ m.jobs)
      (delivers : Delivers targets p job m.disk)
  | later {stage : List (Course (Except Fault Unit))} {job : Course (Except Fault Unit)}
      (mem : stage ∈ m.later) (mem' : job ∈ stage) (delivers : ∀ d, Delivers targets p job d)

theorem lasting_written (p : Path) :
    Course.Lasting fun (result : Except Fault Unit) e => result = .ok () → e.Written p :=
  fun hgrows h hok => (h hok).grows hgrows

theorem Due.step (h : Due targets p m) (hstep : Step m n) (hgrows : Grows m.disk n.disk) :
    Due targets p n := by
  cases hstep with
  | @ask front back request next reply later d e served =>
    cases h with
    | written there => exact .written (there.grows hgrows)
    | @underway job mem delivers =>
      rw [List.mem_append, List.mem_cons] at mem
      rcases mem with mem | rfl | mem
      · exact .underway (List.mem_append_left _ mem)
          (delivers.grows (lasting_written p) hgrows)
      · exact .underway (List.mem_append_right _ List.mem_cons_self)
          (delivers d (.refl d) reply e served).2
      · exact .underway (List.mem_append_right _ (List.mem_cons_of_mem _ mem))
          (delivers.grows (lasting_written p) hgrows)
    | later mem mem' delivers => exact .later mem mem' delivers
  | @stage jobs stage later d succeeded =>
    cases h with
    | written there => exact .written there
    | underway mem delivers =>
      rw [succeeded _ mem] at delivers
      exact .written (delivers rfl)
    | later mem mem' delivers =>
      rcases List.mem_cons.mp mem with rfl | mem
      · exact .underway mem' (delivers d)
      · exact .later mem mem' delivers

/-- One job of a stage may be done from its beginning to its end while the others wait. -/
theorem runs_job (front back : List (Course (Except Fault Unit)))
    (later : List (List (Course (Except Fault Unit)))) (job : Course (Except Fault Unit))
    (v : Volume) : Runs ⟨front ++ job :: back, later, v.toDisk⟩
      ⟨front ++ .done (job.run Volume.serve v).1 :: back, later,
        (job.run Volume.serve v).2.toDisk⟩ := by
  induction job generalizing v with
  | done result => exact .refl
  | ask request next ih =>
    exact .head (.ask (Volume.serves_toDisk request v)) (ih _ (Volume.serve request v).2)

end Moment

namespace Work

open Moment (Runs)

variable {before : Session}

theorem doing_run (errand : Errand Unit) (before : Session) :
    (doing errand before).1 = (errand.run.run Volume.serve before.volume).1 ∧
      (doing errand before).2.volume = (errand.run.run Volume.serve before.volume).2 := by
  obtain ⟨later, hdoing⟩ := doing_eq errand before.volume before.notes
  exact ⟨congrArg Prod.fst hdoing, congrArg (·.2.volume) hdoing⟩

theorem runs_stage (jobs : List (Errand Unit)) {front : List (Course (Except Fault Unit))}
    (hfront : ∀ job ∈ front, job = .done (.ok ()))
    (later : List (List (Course (Except Fault Unit)))) (before : Session) : ∃ left,
      Runs ⟨front ++ jobs.map ExceptT.run, later, before.volume.toDisk⟩
        ⟨left, later, (jobs.forM doing before).2.volume.toDisk⟩ ∧
      ((jobs.forM doing before).1 = .ok () → ∀ job ∈ left, job = .done (.ok ())) := by
  induction jobs generalizing front before with
  | nil => exact ⟨front, by rw [List.map_nil, List.append_nil]; exact .refl, fun _ => hfront⟩
  | cons job jobs ih =>
    obtain ⟨hresult, hvolume⟩ := doing_run job before
    have hjob := Moment.runs_job front (jobs.map ExceptT.run) later job.run before.volume
    rw [← hresult, ← hvolume] at hjob
    rw [Step.forM_cons]
    cases hdoing : doing job before with
    | mk result middle =>
      rw [hdoing] at hjob
      cases result with
      | error fault =>
        rw [Step.bind_of_error hdoing]
        exact ⟨_, hjob, nofun⟩
      | ok done =>
        rw [Step.bind_of_ok hdoing]
        obtain ⟨left, hruns, hleft⟩ := @ih (front ++ [.done (.ok ())])
          (List.forall_mem_append.mpr ⟨hfront, List.forall_mem_singleton.mpr rfl⟩) middle
        rw [List.append_assoc] at hruns
        exact ⟨left, hjob.trans hruns, hleft⟩

theorem runs_stages (stages : List (List (Errand Unit)))
    {front : List (Course (Except Fault Unit))} (hfront : ∀ job ∈ front, job = .done (.ok ()))
    (before : Session) : ∃ after : Moment,
      Runs ⟨front, stages.map (·.map ExceptT.run), before.volume.toDisk⟩ after ∧
      after.disk = (stages.forM (·.forM doing) before).2.volume.toDisk ∧
      ((stages.forM (·.forM doing) before).1 = .ok () → after.Succeeded) := by
  induction stages generalizing front before with
  | nil => exact ⟨_, .refl, rfl, fun _ => ⟨hfront, rfl⟩⟩
  | cons stage stages ih =>
    obtain ⟨left, hruns, hleft⟩ := runs_stage stage (List.forall_mem_nil _)
      (stages.map (·.map ExceptT.run)) before
    have hstage := Relation.ReflTransGen.head (.stage hfront) hruns
    rw [Step.forM_cons]
    cases hdoing : stage.forM doing before with
    | mk result middle =>
      rw [hdoing] at hstage hleft
      cases result with
      | error fault =>
        rw [Step.bind_of_error hdoing]
        exact ⟨_, hstage, rfl, nofun⟩
      | ok done =>
        rw [Step.bind_of_ok hdoing]
        obtain ⟨after, hrest, hdisk, hok⟩ := ih (hleft rfl) middle
        exact ⟨after, hstage.trans hrest, hdisk, hok⟩

end Work

end Swatchbook
