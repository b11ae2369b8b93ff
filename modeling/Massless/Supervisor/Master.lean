import Massless.Transition.Machine

open transition (Machine)

namespace massless.supervisor

/-- Where a call of `_spawn_one` is: before `proc.start()`, or before `proc` is appended. -/
inductive Spawn where
  | starting
  | started (proc : Nat)
  deriving DecidableEq

/-- Where a call of `shutdown` is. A loop goes over the list that `self._workers` was when
it began. -/
inductive Shutdown where
  | flag
  | signal_workers
  | signal (rest : List Nat)
  | join_workers
  | join (rest : List Nat)
  | kill_workers
  | kill (rest : List Nat)
  | kill_one (proc : Nat) (rest : List Nat)
  | join_killed (proc : Nat) (rest : List Nat)
  | clear
  deriving DecidableEq

/-- Where `run_supervised` is below the signal handlers: in `start`, with how many workers
`left` to spawn behind the one at hand, at the test of the loop of `monitor`, in
`_reap_and_restart` from `reap` to `restart`, or on its way out. -/
inductive Main where
  | start (left : Nat)
  | start_one (left : Nat) (spawn : Spawn)
  | monitor
  | reap
  | scan (alive rest : List Nat)
  | checked (alive : List Nat) (proc : Nat) (is_alive : Bool) (rest : List Nat)
  | fill
  | counted (len : Nat)
  | restart (spawn : Spawn)
  | sleep
  | exiting (raised : Bool)
  | leaving (raised : Bool)
  | finished (raised : Bool)
  deriving DecidableEq

/-- The master process and its workers. A process is known by how many were `started`
before it, and `live` are those that run. The `frames` are the calls of `shutdown` on the
main thread, the one that runs first. -/
structure Supervisor where
  workers : List Nat
  shutting_down : Bool
  frames : List Shutdown
  main : Main
  live : List Nat
  started : Nat
  deriving DecidableEq

/-- What can happen: SIGTERM or SIGINT is handled, a process exits, or the main thread does
its next step, in which a process start succeeds or raises. -/
inductive Action where
  | signal
  | exit (proc : Nat)
  | run (start_succeeds : Bool)
  deriving DecidableEq

namespace Supervisor

/-- `proc.is_alive()` -/
def is_alive (self : Supervisor) (proc : Nat) : Bool := proc ∈ self.live

/-- A process ends. -/
def end_process (self : Supervisor) (proc : Nat) : Supervisor :=
  { self with live := self.live.filter fun other => other ≠ proc }

/-- `proc.start()`, on the way to `next`. -/
def start_process (self : Supervisor) (next : Nat → Main) : Supervisor :=
  { self with
    live := self.live ++ [self.started]
    started := self.started + 1
    main := next self.started }

/-- `self._workers.append(proc)`, on the way to `next`. -/
def append_worker (self : Supervisor) (proc : Nat) (next : Main) : Supervisor :=
  { self with workers := self.workers ++ [proc], main := next }

/-- A step of `shutdown` over the frames `below`. A worker may exit at any time, so that the
SIGTERM for it changes nothing here, and a join is over when the worker is or when its time
is up. After SIGKILL it waits for the end of the process. -/
def run_shutdown (self : Supervisor) (below : List Shutdown) : Shutdown → Supervisor
  | .flag => { self with shutting_down := true, frames := .signal_workers :: below }
  | .signal_workers => { self with frames := .signal self.workers :: below }
  | .signal (_ :: rest) => { self with frames := .signal rest :: below }
  | .signal [] => { self with frames := .join_workers :: below }
  | .join_workers => { self with frames := .join self.workers :: below }
  | .join (_ :: rest) => { self with frames := .join rest :: below }
  | .join [] => { self with frames := .kill_workers :: below }
  | .kill_workers => { self with frames := .kill self.workers :: below }
  | .kill (proc :: rest) =>
    if self.is_alive proc then { self with frames := .kill_one proc rest :: below }
    else { self with frames := .kill rest :: below }
  | .kill [] => { self with frames := .clear :: below }
  | .kill_one proc rest => { self with frames := .join_killed proc rest :: below }
  | .join_killed proc rest => { self.end_process proc with frames := .kill rest :: below }
  | .clear => { self with workers := [], frames := below }

/-- A step of `run_supervised` with `n` processes. What a process start raises gets out of
`start` at once, and out of `monitor` through the `finally`. -/
def run_main (n : Nat) (start_succeeds : Bool) (self : Supervisor) : Option Supervisor :=
  match self.main with
  | .start 0 => some { self with main := .monitor }
  | .start (left + 1) => some { self with main := .start_one left .starting }
  | .start_one left .starting =>
    if start_succeeds then some (self.start_process fun proc => .start_one left (.started proc))
    else some { self with main := .finished true }
  | .start_one left (.started proc) => some (self.append_worker proc (.start left))
  | .monitor =>
    if self.shutting_down then some { self with main := .exiting false }
    else some { self with main := .reap }
  | .reap =>
    if self.shutting_down then some { self with main := .sleep }
    else some { self with main := .scan [] self.workers }
  | .scan alive (proc :: rest) =>
    some { self with main := .checked alive proc (self.is_alive proc) rest }
  | .scan alive [] => some { self with workers := alive, main := .fill }
  | .checked alive proc true rest => some { self with main := .scan (alive ++ [proc]) rest }
  | .checked alive _ false rest => some { self with main := .scan alive rest }
  | .fill => some { self with main := .counted self.workers.length }
  | .counted len =>
    if len < n then some { self with main := .restart .starting }
    else some { self with main := .sleep }
  | .restart .starting =>
    if start_succeeds then some (self.start_process fun proc => .restart (.started proc))
    else some { self with main := .exiting true }
  | .restart (.started proc) => some (self.append_worker proc .fill)
  | .sleep => some { self with main := .monitor }
  | .exiting raised => some { self with frames := [.flag], main := .leaving raised }
  | .leaving raised => some { self with main := .finished raised }
  | .finished _ => none

/-- `run_supervised` has returned or raised. -/
def is_over (self : Supervisor) : Bool :=
  match self.main with
  | .finished _ => true
  | _ => false

/-- A step of the system. A handler runs `shutdown` on top of whatever the main thread is
doing. The interpreter looks for signals where a call returns, a function begins or a loop
goes round, so that `self._workers.append(proc)` is one step. -/
def step (n : Nat) (self : Supervisor) : Action → Option Supervisor
  | .signal => if self.is_over then none else some { self with frames := .flag :: self.frames }
  | .exit proc => if self.is_over || !self.is_alive proc then none else some (self.end_process proc)
  | .run start_succeeds =>
    match self.frames with
    | frame :: below => some (self.run_shutdown below frame)
    | [] => self.run_main n start_succeeds

end Supervisor

/-- `run_supervised` with `n` processes, from the call of `start` on. -/
def machine (n : Nat) : Machine Supervisor Action where
  init s := s = ⟨[], false, [], .start n, [], 0⟩
  step := Supervisor.step n

end massless.supervisor
