/-! # Sharing out work and gathering the results

Jobs are dealt out to workers in turn, like cards. Every result carries the place of its job, so
that the results can be put in order whichever worker finishes first.
-/

namespace TemplateAudit.Schedule

/-- Passes over as many jobs as are given and takes the next one; from then on it passes over
`step - 1` jobs before it takes one. -/
def takeEvery (step : Nat) : (passed : Nat) → List α → List α
  | _, [] => []
  | 0, job :: rest => job :: takeEvery step (step - 1) rest
  | passed + 1, _ :: rest => takeEvery step passed rest

/-- The first job and every one that is a multiple of `step` jobs behind it. -/
def stride (step : Nat) (jobs : List α) : List α :=
  takeEvery step 0 jobs

/-- The jobs of a worker: the first ones go to the workers before it, and from then on every round
has one job for it. -/
def share (workers worker : Nat) (jobs : List α) : List α :=
  stride workers (jobs.drop worker)

/-- Deals numbered jobs out to workers. -/
def deal (workers : Nat) (jobs : List α) : List (List (Nat × α)) :=
  (List.range workers).map fun worker =>
    share workers worker (jobs.zipIdx.map fun (job, position) => (position, job))

/-- What a worker hands in: the result of each of its jobs, with the place of the job. -/
def work (run : α → β) (jobs : List (Nat × α)) : List (Nat × β) :=
  jobs.map fun job => (job.1, run job.2)

/-- Puts results into numbered slots; a slot that gets none holds the given value. -/
def gather (count : Nat) (missing : β) (results : List (Nat × β)) : List β :=
  results.foldl (fun slots result => slots.set result.1 result.2) (List.replicate count missing)

/-- Runs jobs on workers that hand in their results in the order that `finish` gives them. -/
def runIn (finish : List (List (Nat × β)) → List (List (Nat × β))) (workers : Nat) (missing : β)
    (run : α → β) (jobs : List α) : List β :=
  gather jobs.length missing (finish ((deal workers jobs).map (work run))).flatten

end TemplateAudit.Schedule
