import BoundaryLint.Host.Ordinary
import BoundaryLint.Lint.Cache
import BoundaryLint.Proofs.Lint.Isolation
import Mathlib.Data.Set.Function
import Mathlib.Logic.Function.Basic

/-!
Clients that share a cache. A client looks a file up, reads it if it is not found and stores its tree;
between these steps the other clients look up, store and clear. Whatever the order of the steps, a client
is told what reading the file without a cache gives.
-/

namespace BoundaryLint.Lint

variable {ι κ ε : Type}

inductive Request where
  | parse (path source : String)
  | clear
deriving DecidableEq, Repr

inductive Response (ε : Type) where
  | parsed (result : Except ε SyntaxTree)
  | cleared

def Request.response (inner : String → String → Except ε SyntaxTree) : Request → Response ε
  | .parse path source => .parsed (inner path source)
  | .clear => .cleared

/-- How far a client is with its first pending request. -/
inductive Phase where
  | waiting
  /-- The file was looked up and not found. -/
  | missed
  /-- The file was read; its tree is not stored yet. -/
  | read (tree : SyntaxTree)

structure Client (ε : Type) where
  phase : Phase := .waiting
  pending : List Request
  answered : List (Request × Response ε) := []

namespace Client

def answer (client : Client ε) (request : Request) (response : Response ε) : Client ε :=
  ⟨.waiting, client.pending.tail, client.answered ++ [(request, response)]⟩

/-- One step of a client, during which no other client uses the cache. -/
def step [DecidableEq κ] (reader : CachedReader κ ε) (client : Client ε) : CachedReader κ ε × Client ε :=
  match client.pending with
  | [] => (reader, client)
  | .clear :: _ => (reader.clear, client.answer .clear .cleared)
  | .parse path source :: _ =>
    match client.phase with
    | .waiting =>
      match reader.cache.find? path (reader.fingerprint source) with
      | some tree => (reader, client.answer (.parse path source) (.parsed (.ok tree)))
      | none => (reader, { client with phase := .missed })
    | .missed =>
      match reader.inner path source with
      | .ok tree => (reader, { client with phase := .read tree })
      | .error fault => (reader, client.answer (.parse path source) (.parsed (.error fault)))
    | .read tree =>
      ({ reader with cache := reader.cache.store path (reader.fingerprint source) tree },
        client.answer (.parse path source) (.parsed (.ok tree)))

def remaining (client : Client ε) : Nat :=
  3 * client.pending.length - match client.phase with
    | .waiting => 0
    | .missed => 1
    | .read _ => 2

end Client

structure Shared (ι κ ε : Type) where
  reader : CachedReader κ ε
  clients : ι → Client ε

namespace Shared

def start (reader : CachedReader κ ε) (requests : ι → List Request) : Shared ι κ ε :=
  ⟨reader, fun i => { pending := requests i }⟩

variable [DecidableEq ι] [DecidableEq κ]

def turn (shared : Shared ι κ ε) (i : ι) : Shared ι κ ε :=
  let taken := (shared.clients i).step shared.reader
  ⟨taken.1, Function.update shared.clients i taken.2⟩

def run (shared : Shared ι κ ε) (schedule : List ι) : Shared ι κ ε := schedule.foldl turn shared

end Shared

namespace Cache

theorem mem_of_find? [DecidableEq κ] {cache : Cache κ} {path : String} {mark : κ} {tree : SyntaxTree}
    (found : cache.find? path mark = some tree) : (path, mark, tree) ∈ cache.entries := by
  unfold find? at found
  split at found
  · next kept entry present =>
    split at found
    · next same =>
      subst same
      cases found
      exact mem_of_lookup present
    · cases found
  · cases found

theorem mem_storeEntry {entries : List (String × κ × SyntaxTree)} {path : String} {entry : κ × SyntaxTree}
    {other : String × κ × SyntaxTree} (mem : other ∈ storeEntry path entry entries) :
    other = (path, entry) ∨ other ∈ entries := by
  induction entries with
  | nil =>
    left
    exact List.mem_singleton.mp mem
  | cons head rest ih =>
    unfold storeEntry at mem
    split at mem
    · rcases List.mem_cons.mp mem with new | old
      · exact .inl new
      · exact .inr (List.mem_cons_of_mem _ old)
    · rcases List.mem_cons.mp mem with kept | later
      · exact .inr (kept ▸ List.mem_cons_self)
      · exact (ih later).imp_right (List.mem_cons_of_mem _)

end Cache

/-- Every entry holds the tree of a text that is among those used. -/
def CachedReader.Faithful (reader : CachedReader κ ε) (used : Set String) : Prop :=
  ∀ path mark tree, (path, mark, tree) ∈ reader.cache.entries →
    ∃ source ∈ used, mark = reader.fingerprint source ∧ reader.inner path source = .ok tree

/-- All that a client was told so far is right, and so is the tree that it is about to store. -/
structure Client.Served (inner : String → String → Except ε SyntaxTree) (requests : List Request)
    (client : Client ε) : Prop where
  history : client.answered.map (·.1) ++ client.pending = requests
  right : ∀ given ∈ client.answered, given.2 = given.1.response inner
  held : ∀ tree, client.phase = .read tree → ∀ path source rest,
    client.pending = .parse path source :: rest → inner path source = .ok tree

section Step

variable {reader : CachedReader κ ε} {client : Client ε} {used : Set String} {requests : List Request}

theorem CachedReader.Faithful.find?_eq [DecidableEq κ] (faithful : reader.Faithful used)
    (apart : used.InjOn reader.fingerprint) {path source : String} (given : source ∈ used) {tree : SyntaxTree}
    (found : reader.cache.find? path (reader.fingerprint source) = some tree) :
    reader.inner path source = .ok tree := by
  obtain ⟨other, known, same, read⟩ := faithful path _ tree (Cache.mem_of_find? found)
  have equal : source = other := apart given known same
  rw [equal]
  exact read

theorem CachedReader.Faithful.store (faithful : reader.Faithful used) {path source : String}
    (given : source ∈ used) {tree : SyntaxTree} (read : reader.inner path source = .ok tree) :
    CachedReader.Faithful
      { reader with cache := reader.cache.store path (reader.fingerprint source) tree } used := by
  intro other mark kept mem
  rcases Cache.mem_storeEntry mem with new | old
  · cases new
    exact ⟨source, given, rfl, read⟩
  · exact faithful other mark kept old

theorem CachedReader.Faithful.clear (reader : CachedReader κ ε) (used : Set String) :
    reader.clear.Faithful used := by
  intro path mark tree mem
  cases mem

namespace Client

theorem Served.answer (served : client.Served reader.inner requests) {request : Request} {rest : List Request}
    (next : client.pending = request :: rest) {response : Response ε}
    (right : response = request.response reader.inner) :
    (client.answer request response).Served reader.inner requests where
  history := by
    have history := served.history
    rw [next] at history
    simpa [Client.answer, next] using history
  right := by
    intro given mem
    rcases List.mem_append.mp mem with earlier | last
    · exact served.right given earlier
    · cases List.mem_singleton.mp last
      exact right
  held := by
    intro tree absurd
    cases absurd

theorem Served.answered_eq {inner : String → String → Except ε SyntaxTree} (served : client.Served inner requests)
    (done : client.pending = []) :
    client.answered = requests.map fun request => (request, request.response inner) := by
  have history := served.history
  rw [done, List.append_nil] at history
  calc
    client.answered = client.answered.map id := (List.map_id _).symm
    _ = client.answered.map fun given => (given.1, given.1.response inner) :=
      List.map_congr_left fun given mem => Prod.ext rfl (served.right given mem)
    _ = (client.answered.map (·.1)).map fun request => (request, request.response inner) := by
      rw [List.map_map]
      rfl
    _ = requests.map fun request => (request, request.response inner) := by rw [history]

variable [DecidableEq κ]

theorem step_inner (reader : CachedReader κ ε) (client : Client ε) :
    (client.step reader).1.inner = reader.inner ∧ (client.step reader).1.fingerprint = reader.fingerprint := by
  fun_cases step reader client
  all_goals exact ⟨rfl, rfl⟩

/-- A step keeps the cache faithful and tells the client what is right. -/
theorem step_sound (faithful : reader.Faithful used) (apart : used.InjOn reader.fingerprint)
    (given : ∀ path source, .parse path source ∈ requests → source ∈ used)
    (served : client.Served reader.inner requests) :
    (client.step reader).1.Faithful used ∧ (client.step reader).2.Served reader.inner requests := by
  have known {path source : String} {rest : List Request} (next : client.pending = .parse path source :: rest) :
      source ∈ used := by
    apply given path source
    rw [← served.history, next]
    exact List.mem_append_right _ List.mem_cons_self
  fun_cases step reader client with
  | case1 => exact ⟨faithful, served⟩
  | case2 rest next => exact ⟨.clear reader used, served.answer next rfl⟩
  | case3 path source rest next waiting tree found =>
    have read := faithful.find?_eq apart (known next) found
    exact ⟨faithful, served.answer next (by rw [Request.response, read])⟩
  | case4 path source rest next waiting absent =>
    refine ⟨faithful, served.history, served.right, ?_⟩
    intro tree impossible
    cases impossible
  | case5 path source rest next missed tree read =>
    refine ⟨faithful, served.history, served.right, ?_⟩
    intro kept same other text later again
    cases same
    cases next.symm.trans again
    exact read
  | case6 path source rest next missed fault refused =>
    exact ⟨faithful, served.answer next (by rw [Request.response, refused])⟩
  | case7 path source rest next tree held =>
    have read := served.held tree held path source rest next
    exact ⟨faithful.store (known next) read, served.answer next (by rw [Request.response, read])⟩

/-- No step of a request that ends in a fault changes the cache. -/
theorem step_of_error (served : client.Served reader.inner requests) {path source : String} {rest : List Request}
    (next : client.pending = .parse path source :: rest) {fault : ε}
    (refused : reader.inner path source = .error fault) : (client.step reader).1 = reader := by
  fun_cases step reader client with
  | case2 others other => cases next.symm.trans other
  | case7 other text others same tree held =>
    cases next.symm.trans same
    cases refused.symm.trans (served.held tree held path source rest next)
  | _ => rfl

theorem remaining_step (reader : CachedReader κ ε) (client : Client ε) :
    (client.step reader).2.remaining ≤ client.remaining - 1 := by
  fun_cases step reader client with
  | case1 none => simp [remaining, none]
  | case2 rest next =>
    simp only [remaining, Client.answer, next, List.tail_cons, List.length_cons]
    split
    all_goals omega
  | case3 path source rest next waiting tree found =>
    simp only [remaining, Client.answer, next, waiting, List.tail_cons, List.length_cons]
    omega
  | case4 path source rest next waiting absent =>
    simp only [remaining, next, waiting, List.length_cons]
    omega
  | case5 path source rest next missed tree read =>
    simp only [remaining, next, missed, List.length_cons]
    omega
  | case6 path source rest next missed fault refused =>
    simp only [remaining, Client.answer, next, missed, List.tail_cons, List.length_cons]
    omega
  | case7 path source rest next tree held =>
    simp only [remaining, Client.answer, next, held, List.tail_cons, List.length_cons]
    omega

theorem pending_of_remaining (none : client.remaining = 0) : client.pending = [] := by
  unfold remaining at none
  have short : client.pending.length = 0 := by
    split at none
    all_goals omega
  exact List.length_eq_zero_iff.mp short

end Client

end Step

namespace Shared

variable {reader : CachedReader κ ε} {requests : ι → List Request} {shared : Shared ι κ ε}

def sources (requests : ι → List Request) : Set String := {source | ∃ i path, .parse path source ∈ requests i}

structure Sound (reader : CachedReader κ ε) (requests : ι → List Request) (shared : Shared ι κ ε) : Prop where
  inner : shared.reader.inner = reader.inner
  fingerprint : shared.reader.fingerprint = reader.fingerprint
  faithful : shared.reader.Faithful (sources requests)
  served : ∀ i, (shared.clients i).Served reader.inner (requests i)

theorem sound_start (empty : reader.cache.entries = []) : (start reader requests).Sound reader requests where
  inner := rfl
  fingerprint := rfl
  faithful := by
    intro path mark tree mem
    rw [start, empty] at mem
    cases mem
  served := by
    intro i
    refine ⟨rfl, ?_, ?_⟩
    · intro given mem
      cases mem
    · intro tree impossible
      cases impossible

variable [DecidableEq ι] [DecidableEq κ]

theorem clients_turn_self (shared : Shared ι κ ε) (i : ι) :
    (shared.turn i).clients i = ((shared.clients i).step shared.reader).2 :=
  Function.update_self i _ shared.clients

theorem clients_turn_of_ne (shared : Shared ι κ ε) {i j : ι} (other : j ≠ i) :
    (shared.turn i).clients j = shared.clients j :=
  Function.update_of_ne other _ shared.clients

theorem Sound.turn (apart : (sources requests).InjOn reader.fingerprint) (sound : shared.Sound reader requests)
    (i : ι) : (shared.turn i).Sound reader requests := by
  obtain ⟨inner, fingerprint⟩ := Client.step_inner shared.reader (shared.clients i)
  rw [← sound.fingerprint] at apart
  have served := sound.served i
  rw [← sound.inner] at served
  obtain ⟨faithful, told⟩ := Client.step_sound sound.faithful apart (fun path source mem => ⟨i, path, mem⟩) served
  constructor
  · exact inner.trans sound.inner
  · exact fingerprint.trans sound.fingerprint
  · exact faithful
  · intro j
    by_cases same : j = i
    · subst same
      rw [clients_turn_self, ← sound.inner]
      exact told
    · rw [clients_turn_of_ne shared same]
      exact sound.served j

theorem Sound.run (apart : (sources requests).InjOn reader.fingerprint) (sound : shared.Sound reader requests)
    (schedule : List ι) : (shared.run schedule).Sound reader requests := by
  induction schedule generalizing shared with
  | nil => exact sound
  | cons i rest ih => exact ih (sound.turn apart i)

theorem remaining_run (shared : Shared ι κ ε) (schedule : List ι) (i : ι) :
    ((shared.run schedule).clients i).remaining ≤ (shared.clients i).remaining - schedule.count i := by
  induction schedule generalizing shared with
  | nil => exact Nat.le_refl _
  | cons j rest ih =>
    have later := ih (shared.turn j)
    by_cases same : j = i
    · subst same
      have taken := Client.remaining_step shared.reader (shared.clients j)
      rw [clients_turn_self] at later
      rw [List.count_cons_self]
      calc
        _ ≤ ((shared.clients j).step shared.reader).2.remaining - rest.count j := later
        _ ≤ (shared.clients j).remaining - (rest.count j + 1) := by omega
    · rw [clients_turn_of_ne shared (Ne.symm same)] at later
      rw [List.count_cons_of_ne same]
      exact later

/-- Sharing a cache does not show. After any steps of the clients, in any order, whatever a client was told
is what reading without a cache gives; every entry of the cache is the tree of a text with its fingerprint;
a request that ends in a fault is about to leave the cache as it is; and three steps for each of its
requests are enough for a client to be told everything. -/
theorem run_transparent {inner : String → String → Except ε SyntaxTree} {fingerprint : String → κ}
    (made : CachedReader.around (some inner) fingerprint = .ok reader)
    (apart : (sources requests).InjOn fingerprint) (schedule : List ι) :
    (∀ i, (((start reader requests).run schedule).clients i).answered.map (·.1) ++
        (((start reader requests).run schedule).clients i).pending = requests i ∧
      ∀ request response, (request, response) ∈ (((start reader requests).run schedule).clients i).answered →
        response = request.response inner) ∧
    (∀ path mark tree, (path, mark, tree) ∈ ((start reader requests).run schedule).reader.cache.entries →
      ∃ source, mark = fingerprint source ∧ inner path source = .ok tree) ∧
    (∀ i path source rest fault,
      (((start reader requests).run schedule).clients i).pending = .parse path source :: rest →
      inner path source = .error fault →
      (((start reader requests).run schedule).turn i).reader = ((start reader requests).run schedule).reader) ∧
    ∀ i, 3 * (requests i).length ≤ schedule.count i →
      (((start reader requests).run schedule).clients i).answered =
        (requests i).map fun request => (request, request.response inner) := by
  cases made
  have sound : ((start ⟨inner, fingerprint, {}⟩ requests).run schedule).Sound ⟨inner, fingerprint, {}⟩ requests :=
    (sound_start rfl).run apart schedule
  refine ⟨?_, ?_, ?_, ?_⟩
  · intro i
    exact ⟨(sound.served i).history, fun request response mem => (sound.served i).right _ mem⟩
  · intro path mark tree mem
    obtain ⟨source, -, same, read⟩ := sound.faithful path mark tree mem
    rw [sound.fingerprint] at same
    rw [sound.inner] at read
    exact ⟨source, same, read⟩
  · intro i path source rest fault next refused
    have served := sound.served i
    rw [← sound.inner] at served
    apply Client.step_of_error served next
    rw [sound.inner]
    exact refused
  · intro i often
    have bound := remaining_run (start ⟨inner, fingerprint, {}⟩ requests) schedule i
    have whole : ((start ⟨inner, fingerprint, {}⟩ requests).clients i).remaining = 3 * (requests i).length := rfl
    have done := Client.pending_of_remaining (Nat.le_zero.mp (bound.trans (by omega)))
    exact (sound.served i).answered_eq done

def cartRequests : Bool → List Request
  | true => [.parse "lib/cart.ex" ""]
  | false => [.clear, .parse "lib/cart.ex" "$"]

attribute [local instance] Host.ordinary in
theorem run_transparent_cart :
    ∃ reader : CachedReader String UnitFault, CachedReader.around (some readTree) id = .ok reader ∧
      ∀ schedule : List Bool, 3 ≤ schedule.count true → 6 ≤ schedule.count false →
        (((start reader cartRequests).run schedule).clients true).answered =
          [(.parse "lib/cart.ex" "", .parsed (.ok ⟨"lib/cart.ex", []⟩))] ∧
        (((start reader cartRequests).run schedule).clients false).answered =
          [(.clear, .cleared),
            (.parse "lib/cart.ex" "$", .parsed (.error (.source (.unexpectedCharacter '$') 1)))] := by
  refine ⟨⟨readTree, id, {}⟩, rfl, ?_⟩
  intro schedule first second
  have apart : (sources cartRequests).InjOn id := Set.injOn_id _
  have cart : readTree "lib/cart.ex" "" = .ok ⟨"lib/cart.ex", []⟩ := by
    simp only [readTree, parse_empty]
    rfl
  have order : readTree "lib/cart.ex" "$" = .error (.source (.unexpectedCharacter '$') 1) := by
    simp only [readTree, parse_dollar]
  obtain ⟨-, -, -, told⟩ := run_transparent rfl apart schedule
  constructor
  · rw [told true first]
    simp [cartRequests, Request.response, cart]
  · rw [told false second]
    simp [cartRequests, Request.response, order]

end Shared

end BoundaryLint.Lint
