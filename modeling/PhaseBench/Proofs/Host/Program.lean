import PhaseBench.Host.Program
import PhaseBench.Proofs.Host.Confinement

/-!
# What the installed programs ask for

Of the installed programs only the shells can send signals, and open files other than to read
them. Whatever its arguments are and whatever it reads, another program does neither
(`confined_image`).
-/

namespace PhaseBench.Host

/-- Holds for what sends no signal and opens files only to read them. -/
def Request.Plain : Request → Prop
  | .send _ _ => False
  | .openFile _ mode => mode = { reads := true }
  | _ => True

theorem Request.Plain.silent {request : Request} (plain : request.Plain) : request.Silent := by
  cases request <;> trivial

namespace Act

variable {α β : Type}

/-- An act behind which nothing is asked for but what is plain, if that holds for what follows. -/
def Plain (act : Act α) : Prop :=
  ∀ next : α → Task, (∀ value, (next value).Confined Request.Plain) →
    (act next).Confined Request.Plain

theorem plain_pure (value : α) : Plain (pure value) := fun _ onward => onward value

theorem Plain.bind {act : Act α} {f : α → Act β} (first : act.Plain)
    (onward : ∀ value, (f value).Plain) : (act >>= f).Plain :=
  fun next confined => first _ fun value => onward value next confined

theorem plain_ite {condition : Prop} [Decidable condition] {one two : Act α} (first : one.Plain)
    (second : two.Plain) : (if condition then one else two).Plain := by
  split
  · exact first
  · exact second

theorem plain_either {condition : Prop} [Decidable condition] {one two : Act α} {f : α → Act β}
    (first : one.Plain) (second : two.Plain) (onward : ∀ value, (f value).Plain) :
    (if condition then one >>= f else two >>= f).Plain :=
  plain_ite (first.bind onward) (second.bind onward)

/-- What is done under a condition before going on. -/
theorem plain_unless {condition : Prop} [Decidable condition] {act : Act Unit}
    {f : Unit → Act β} (first : act.Plain) (onward : (f ()).Plain) :
    (if condition then f () else act >>= f).Plain :=
  plain_ite onward (first.bind fun _ => onward)

theorem plain_when {condition : Prop} [Decidable condition] {act : Act α} {f : α → Act β}
    {two : Act β} (first : act.Plain) (onward : ∀ value, (f value).Plain) (second : two.Plain) :
    (if condition then act >>= f else two).Plain :=
  plain_ite (first.bind onward) second

theorem plain_ask {request : Request} (plain : request.Plain) : (ask request).Plain :=
  fun _ onward => .ask plain onward

theorem plain_hang : (hang : Act α).Plain := fun _ _ => Task.confined_hang trivial

theorem Plain.task {act : Act Nat} (plain : act.Plain) : act.task.Confined Request.Plain :=
  plain _ .ended

/-! ## Writing -/

theorem plain_writeBytes (descriptor fuel : Nat) (bytes : ByteArray) :
    (writeBytes descriptor fuel bytes).Plain := by
  induction fuel generalizing bytes with
  | zero => exact plain_hang
  | succ fuel ih =>
      unfold writeBytes
      split
      · exact plain_pure _
      · refine Plain.bind (plain_ask (by trivial)) fun reply => ?_
        split
        · exact plain_pure _
        · split
          · exact ih _
          · exact plain_pure _

theorem plain_write (descriptor : Nat) (octets : Octets) : (write descriptor octets).Plain :=
  plain_writeBytes _ _ _

theorem plain_tell (descriptor : Nat) (octets : Octets) : (tell descriptor octets).Plain :=
  (plain_write _ _).bind fun _ => plain_pure _

theorem plain_complain (program message : Octets) : (complain program message).Plain :=
  plain_tell _ _

theorem plain_misuse (program message : Octets) : (misuse program message).Plain :=
  (plain_tell _ _).bind fun _ => plain_pure _

theorem plain_print (program octets : Octets) : (print program octets).Plain := by
  refine (plain_write _ _).bind fun reply => ?_
  split
  · exact plain_pure _
  · exact (plain_complain _ _).bind fun _ => plain_pure _

theorem plain_openRead (path : String) : (openRead path).Plain := plain_ask rfl

theorem plain_printAll (program : Octets) (messages : List (Octets × Octets)) :
    (printAll program messages).Plain := by
  induction messages with
  | nil => exact plain_pure _
  | cons message messages ih =>
      exact (plain_tell _ _).bind fun _ => (plain_complain _ _).bind fun _ => ih

end Act

open Act

/-! ## Programs -/

theorem plain_echoProgram (program : Octets) (arguments : List Octets) :
    (echoProgram program arguments).Plain :=
  (plain_print _ _).bind fun _ => plain_pure _

theorem plain_printfProgram (program : Octets) (arguments : List Octets) :
    (printfProgram program arguments).Plain := by
  unfold printfProgram
  dsimp only
  split
  · exact plain_misuse _ _
  · exact (plain_printAll _ _).bind fun _ => (plain_print _ _).bind fun _ => plain_pure _

theorem plain_sleep (program : Octets) (arguments : List Octets) :
    (sleep program arguments).Plain := by
  unfold sleep
  split
  · exact plain_misuse _ _
  · dsimp only
    split
    · exact plain_misuse _ _
    · split
      · exact plain_hang
      · exact Plain.bind (plain_ask (by trivial)) fun _ => plain_pure _
    · exact plain_misuse _ _

theorem plain_repeatBytes (program : Octets) (bytes : ByteArray) (fuel : Nat) :
    (repeatBytes program bytes fuel).Plain := by
  induction fuel with
  | zero => exact plain_hang
  | succ fuel ih =>
      refine (plain_writeBytes _ _ _).bind fun reply => ?_
      split
      · exact Plain.bind (plain_ask (by trivial)) fun _ => ih
      · exact (plain_complain _ _).bind fun _ => plain_pure _

theorem plain_yes (fuel : Nat) (program : Octets) (arguments : List Octets) :
    (yes fuel program arguments).Plain := by
  unfold yes
  split
  · exact plain_misuse _ _
  · exact plain_repeatBytes _ _ _

theorem Cat.plain_copy (program name : Octets) (view : Cat.View) (descriptor fuel : Nat)
    (place : Cat.Place) : (Cat.copy program name view descriptor fuel place).Plain := by
  induction fuel generalizing place with
  | zero => exact plain_hang
  | succ fuel ih =>
      refine Plain.bind (plain_ask (by trivial)) fun reply => ?_
      split
      · exact (plain_complain _ _).bind fun _ => plain_pure _
      · split
        · exact plain_pure _
        · refine (plain_writeBytes _ _ _).bind fun written => ?_
          split
          · exact (plain_complain _ _).bind fun _ => plain_pure _
          · exact ih _

theorem Cat.plain_files (program : Octets) (view : Cat.View) (fuel : Nat) (good : Bool)
    (place : Cat.Place) (names : List Octets) :
    (Cat.files program view fuel good place names).Plain := by
  induction names generalizing good place with
  | nil => exact plain_pure _
  | cons name names ih =>
      unfold Cat.files
      dsimp only
      refine plain_either (plain_pure _) (plain_openRead _) fun opened => ?_
      split
      · exact (plain_complain _ _).bind fun _ => ih _ _
      · refine Plain.bind (plain_ask (by trivial)) fun input => ?_
        refine Plain.bind (plain_ask (by trivial)) fun output => ?_
        refine Plain.bind (plain_ask (by trivial)) fun tree => ?_
        split
        · refine (plain_complain _ _).bind fun _ => ?_
          exact plain_unless (plain_ask (by trivial)) (ih _ _)
        · refine (plain_copy _ _ _ _ _ _).bind fun copied => ?_
          split
          · exact plain_pure _
          · exact plain_unless (plain_ask (by trivial)) (ih _ _)

theorem plain_cat (fuel : Nat) (program : Octets) (arguments : List Octets) :
    (cat fuel program arguments).Plain := by
  unfold cat
  split
  · exact plain_misuse _ _
  · refine Plain.bind (plain_ask (by trivial)) fun output => ?_
    split
    · exact (plain_complain _ _).bind fun _ => plain_pure _
    · exact Cat.plain_files _ _ _ _ _ _

theorem Head.plain_copy (program name : Octets) (job : Head.Job) (descriptor fuel left : Nat) :
    (Head.copy program name job descriptor fuel left).Plain := by
  induction fuel generalizing left with
  | zero => exact plain_hang
  | succ fuel ih =>
      cases left with
      | zero => exact plain_pure _
      | succ left =>
          refine Plain.bind (plain_ask (by trivial)) fun reply => ?_
          split
          · exact (plain_complain _ _).bind fun _ => plain_pure _
          · split
            · exact plain_pure _
            · have onward (rest : Nat) (kept : Octets) : Plain (do
                let good ← print program kept
                if good then Head.copy program name job descriptor fuel rest else return 1) :=
                (plain_print _ _).bind fun _ => plain_ite (ih _) (plain_pure _)
              exact plain_when (plain_ask (by trivial)) (fun _ => onward _ _) (onward _ _)

theorem Head.plain_readAll (descriptor fuel : Nat) (before : ByteArray) :
    (Head.readAll descriptor fuel before).Plain := by
  induction fuel generalizing before with
  | zero => exact plain_hang
  | succ fuel ih =>
      refine Plain.bind (plain_ask (by trivial)) fun reply => ?_
      split
      · exact plain_pure _
      · exact plain_ite (plain_pure _) (ih _)

theorem Head.plain_present (program name : Octets) (fuel : Nat) (job : Head.Job)
    (descriptor : Nat) : (Head.present program name fuel job descriptor).Plain := by
  unfold Head.present
  split
  · refine (plain_readAll _ _ _).bind fun read => ?_
    split
    · exact (plain_complain _ _).bind fun _ => plain_pure _
    · exact (plain_print _ _).bind fun _ => plain_pure _
  · exact plain_copy _ _ _ _ _ _

theorem Head.plain_files (program : Octets) (fuel : Nat) (job : Head.Job) (titled first : Bool)
    (code : Nat) (names : List Octets) :
    (Head.files program fuel job titled first code names).Plain := by
  induction names generalizing first code with
  | nil => exact plain_pure _
  | cons name names ih =>
      unfold Head.files
      dsimp only
      have onward (shown : Octets) (descriptor : Nat) (first : Bool) (f : Nat → Nat) : Plain (do
          let result ← Head.present program shown fuel job descriptor
          if name = ['-'] then Head.files program fuel job titled first (f result) names
          else do
            Act.ask (.close descriptor)
            Head.files program fuel job titled first (f result) names) :=
        (plain_present _ _ _ _ _).bind fun _ => plain_unless (plain_ask (by trivial)) (ih _ _)
      refine plain_either (plain_pure _) (plain_openRead _) fun opened => ?_
      split
      · exact (plain_complain _ _).bind fun _ => ih _ _
      · exact plain_when (plain_print _ _) (fun _ => onward _ _ _ _) (onward _ _ _ _)

theorem plain_head (fuel : Nat) (program : Octets) (arguments : List Octets) :
    (head fuel program arguments).Plain := by
  unfold head
  dsimp only
  split
  · exact plain_misuse _ _
  · split
    · exact plain_misuse _ _
    · split
      · exact (plain_complain _ _).bind fun _ => plain_pure _
      · exact Head.plain_files _ _ _ _ _ _ _

theorem Count.plain_tally (descriptor fuel : Nat) (progress : Tally.Progress) :
    (Count.tally descriptor fuel progress).Plain := by
  induction fuel generalizing progress with
  | zero => exact plain_hang
  | succ fuel ih =>
      refine Plain.bind (plain_ask (by trivial)) fun reply => ?_
      split
      · exact plain_pure _
      · exact plain_ite (plain_pure _) (ih _)

theorem Count.plain_files (program : Octets) (fuel : Nat) (counts : Counts) (width : Nat)
    (shows : Bool) (code : Nat) (sum : Tally) (names : List (Option Octets)) :
    (Count.files program fuel counts width shows code sum names).Plain := by
  induction names generalizing code sum with
  | nil => exact plain_pure _
  | cons name names ih =>
      unfold Count.files
      dsimp only
      refine plain_ite ((plain_complain _ _).bind fun _ => ih _ _) ?_
      refine plain_either (plain_pure _) (plain_openRead _) fun opened => ?_
      split
      · exact (plain_complain _ _).bind fun _ => ih _ _
      · refine (plain_tally _ _ _).bind fun counted => ?_
        split
        · refine (plain_pure _).bind fun code => plain_unless (plain_ask (by trivial)) ?_
          exact plain_either (plain_print _ _) (plain_pure _) fun _ => ih _ _
        · refine (plain_complain _ _).bind fun _ => (plain_pure _).bind fun code => ?_
          refine plain_unless (plain_ask (by trivial)) ?_
          exact plain_either (plain_print _ _) (plain_pure _) fun _ => ih _ _

theorem plain_wc (fuel : Nat) (program : Octets) (arguments : List Octets) :
    (wc fuel program arguments).Plain := by
  unfold wc
  split
  · exact plain_misuse _ _
  · dsimp only
    split
    · exact plain_misuse _ _
    · refine Plain.bind (plain_ask (by trivial)) fun tree => ?_
      refine Plain.bind (plain_ask (by trivial)) fun input => ?_
      refine (Count.plain_files _ _ _ _ _ _ _ _).bind fun counted => ?_
      exact plain_when (plain_print _ _) (fun _ => plain_pure _) (plain_pure _)

theorem Transliterate.plain_copy (program : Octets) (rule : Transliterate.Rule) (fuel : Nat)
    (last : Option Char) : (Transliterate.copy program rule fuel last).Plain := by
  induction fuel generalizing last with
  | zero => exact plain_hang
  | succ fuel ih =>
      refine Plain.bind (plain_ask (by trivial)) fun reply => ?_
      split
      · exact (plain_complain _ _).bind fun _ => plain_pure _
      · refine plain_ite (plain_pure _) ?_
        exact (plain_print _ _).bind fun _ => plain_ite (ih _) (plain_pure _)

theorem Transliterate.plain_warn (program : Octets) (warnings : List String) :
    (Transliterate.warn program warnings).Plain := by
  induction warnings with
  | nil => exact plain_pure _
  | cons warning warnings ih => exact (plain_complain _ _).bind fun _ => ih

theorem plain_tr (fuel : Nat) (program : Octets) (arguments : List Octets) :
    (tr fuel program arguments).Plain := by
  unfold tr
  split
  · exact plain_misuse _ _
  · next arguments _ =>
      dsimp only
      generalize Transliterate.Job.ofArguments arguments = job
      generalize (if job.delete && !job.squeeze then 1 else 2) = most
      refine plain_ite ?few ?enough
      case few => split <;> exact plain_misuse _ _
      case enough =>
        split
        · exact plain_misuse _ _
        · have warned {α : Type} (warnings : List String) (value : α) : Plain (do
              Transliterate.warn program warnings
              return value) :=
            (Transliterate.plain_warn _ _).bind fun _ => plain_pure _
          refine (warned _ _).bind fun first => ?_
          split
          · refine (warned _ _).bind fun second => (plain_pure _).bind fun second? => ?_
            split
            · exact (plain_complain _ _).bind fun _ => plain_pure _
            · exact Transliterate.plain_copy _ _ _ _
          · refine (plain_pure _).bind fun second? => ?_
            split
            · exact (plain_complain _ _).bind fun _ => plain_pure _
            · exact Transliterate.plain_copy _ _ _ _

/-- An installed program other than a shell. -/
structure IsUtility (program : String) : Prop where
  installed : program ∈ programs
  ne_sh : program ≠ "sh"
  ne_dash : program ≠ "dash"

/-- Whatever its arguments are, a program other than a shell sends no signal and opens files only
to read them. -/
theorem confined_image (engine : Engine) {program : String} (words : List Octets)
    (environment : Bindings) (utility : IsUtility program) :
    (image engine program words environment).Confined Request.Plain := by
  have named := utility.installed
  simp only [programs, List.mem_cons, List.not_mem_nil, or_false, utility.ne_sh, utility.ne_dash,
    false_or] at named
  rcases named with rfl | rfl | rfl | rfl | rfl | rfl | rfl | rfl | rfl | rfl
  · exact (plain_echoProgram _ _).task
  · exact (plain_printfProgram _ _).task
  · exact (plain_cat _ _ _).task
  · exact .ended 0
  · exact .ended 1
  · exact (plain_sleep _ _).task
  · exact (plain_yes _ _ _).task
  · exact (plain_head _ _ _).task
  · exact (plain_wc _ _ _).task
  · exact (plain_tr _ _ _).task

end PhaseBench.Host
