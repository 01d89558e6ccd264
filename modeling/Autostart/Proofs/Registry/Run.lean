import Autostart.Registry.Arrivals
import Autostart.Registry.Saving

/-!
# Runs of a registry

A run starts with a registry that knows no launcher and performs one action after another: an
operation of the registry, a step of the clock, or a change that other programs made to the files.
What holds of a registry that knows no launcher and is preserved by every action of some kind holds
after every run of such actions.
-/

namespace Autostart.Registry

/-- What can happen to a registry. -/
inductive Action where
  /-- It takes account of every file of the search path. -/
  | scan
  /-- It loads a file of a rank. -/
  | load (path : Path) (rank : Nat)
  /-- It is told that a file was made or changed. -/
  | fileChanged (path : Path)
  /-- It is told that a file was removed. -/
  | fileRemoved (path : Path)
  /-- A launcher gets a name, a comment, a command line and a delay. -/
  | update (filename : String) (name? comment? exec? : Option String) (delay : Nat)
  /-- A launcher is switched off or on. -/
  | setHidden (filename : String) (hidden : Bool)
  /-- A launcher is deleted. -/
  | delete (filename : String)
  /-- A launcher is made from a command line. -/
  | create (request : Request)
  /-- A launcher is brought in from a file. -/
  | copyFrom (text : String)
  /-- The changes of a launcher are saved. -/
  | flush (filename : String)
  /-- The saves that are due are run. -/
  | runDueSaves
  /-- A launcher is saved and dropped. -/
  | close (filename : String)
  /-- All launchers are saved and dropped. -/
  | shutdown
  /-- Time passes. -/
  | advance (milliseconds : Nat)
  /-- One more observer is told of events. -/
  | subscribe
  /-- An observer is not told of events any more. -/
  | unsubscribe (id : Nat)
  /-- Other programs change the files. -/
  | outside (files : FileStore)

/-- The registry after an action. -/
def perform (r : Registry) : Action → Registry
  | .scan => r.scan
  | .load path rank => (r.load path rank).2
  | .fileChanged path => (r.fileChanged path).2
  | .fileRemoved path => r.fileRemoved path
  | .update filename name? comment? exec? delay =>
    (r.update filename name? comment? exec? delay).2
  | .setHidden filename hidden => (r.setHidden filename hidden).2
  | .delete filename => (r.delete filename).2
  | .create request => (r.create request).2
  | .copyFrom text => (r.copyFrom text).2
  | .flush filename => (r.flush filename).2
  | .runDueSaves => r.runDueSaves.2
  | .close filename => (r.close filename).2
  | .shutdown => r.shutdown.2
  | .advance milliseconds => r.advance milliseconds
  | .subscribe => { r with observers := r.observers.subscribe.2 }
  | .unsubscribe id => { r with observers := (r.observers.unsubscribe id).2 }
  | .outside files => { r with files }

/-- The registries that a run of allowed actions leads to under some settings. -/
inductive Reachable (allowed : Action → Prop) (settings : Settings) : Registry → Prop where
  /-- A run starts with a registry that knows no launcher. -/
  | fresh (files : FileStore) (now : Nat) :
      Reachable allowed settings (Registry.fresh settings files now)
  /-- A run goes on with any allowed action. -/
  | step (r : Registry) (a : Action) (reachable : Reachable allowed settings r) (ok : allowed a) :
      Reachable allowed settings (r.perform a)

/-- A run goes on with any list of allowed actions. -/
theorem Reachable.foldl {allowed : Action → Prop} {settings : Settings} {r : Registry}
    (h : Reachable allowed settings r) {actions : List Action} (ok : ∀ a ∈ actions, allowed a) :
    Reachable allowed settings (actions.foldl perform r) := by
  induction actions generalizing r with
  | nil => exact h
  | cons a rest ih =>
    have hnext := Reachable.step r a h (ok a List.mem_cons_self)
    exact ih hnext fun b hb => ok b (List.mem_cons_of_mem a hb)

/-- What holds at the start and is preserved by every allowed action holds after every run. -/
theorem Reachable.invariant {allowed : Action → Prop} {settings : Settings}
    {P : Registry → Prop} (start : ∀ files now, P (Registry.fresh settings files now))
    (step : ∀ r a, allowed a → P r → P (r.perform a)) {r : Registry}
    (h : Reachable allowed settings r) : P r := by
  induction h with
  | fresh files now => exact start files now
  | step r a _ ok ih => exact step r a ok ih

/-- The settings of a user without directories of the system. -/
def userDirectoryOnly : Settings :=
  .ofDirectories ⟨⟨"user"⟩, []⟩

/-- Files with one launcher, which the user defines. -/
def oneUserLauncher : FileStore :=
  (FileStore.atDirectory []).put ⟨"user/a.desktop"⟩
    (.file (.text "[Desktop Entry]\nName=A\nExec=a\n"))

end Autostart.Registry
