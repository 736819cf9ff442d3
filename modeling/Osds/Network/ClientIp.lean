import Osds.Lib.Ip
import Osds.Lib.Text
import Mathlib.Logic.Basic

namespace Osds.Network
open Ip

structure Library where
  ipAddress : String → Option Address
  text : Address → String

structure Request where
  remoteAddr : String
  forwardedFor : String

section parse

variable (lib : Library)

-- A hop with and without the port some proxies append.
def candidates (token : String) : List String :=
  let chars := token.toList
  if chars.head? = some '[' ∧ ']' ∈ chars then [token,String.ofList ((chars.drop 1).takeWhile (· ≠ ']'))]
  else if chars.count ':' = 1 then [token,(Text.partition ':' token).1]
  else [token]

def parse (token : String) : Option Address :=
  if Text.strip token = "" then none
  else ((candidates (Text.strip token)).findSome? lib.ipAddress).map Address.unmapped

end parse

section walk

variable (lib : Library) (trusted : List Network)

def walk : Address → List String → Address
  | addr,[] => addr
  | addr,token :: rest =>
      if ¬listed trusted addr then addr
      else match parse lib token with
        | none => addr
        | some hop => walk hop rest

def clientIp (r : Request) : String :=
  match parse lib r.remoteAddr with
  | none => r.remoteAddr
  | some peer =>
      if trusted = [] then lib.text peer
      else if ¬listed trusted peer then lib.text peer
      else lib.text (walk lib trusted peer (Text.split ',' r.forwardedFor).reverse)

def stops (token : String) : Bool := (parse lib token).all fun hop => !listed trusted hop

end walk

section walked

variable {lib : Library} {trusted : List Network}

theorem walk_untrusted {addr : Address} (untrusted : listed trusted addr = false) (tokens : List String) :
    walk lib trusted addr tokens = addr := by
  cases tokens with
  | nil => rfl
  | cons token rest =>
      unfold walk
      rw [untrusted]
      rfl

theorem walk_stopped {tokens : List String} (stopped : ∃ token ∈ tokens, stops lib trusted token = true)
    (addr : Address) (behind : List String) : walk lib trusted addr (tokens ++ behind) = walk lib trusted addr tokens := by
  induction tokens generalizing addr with
  | nil =>
      obtain ⟨token,there,_⟩ := stopped
      cases there
  | cons token rest ih =>
      rw [List.cons_append,walk,walk]
      by_cases passed : listed trusted addr = true
      · rw [if_neg (not_not.mpr passed),if_neg (not_not.mpr passed)]
        cases read : parse lib token with
        | none => rfl
        | some hop =>
            dsimp only
            by_cases here : listed trusted hop = true
            · refine ih ?_ hop
              obtain ⟨other,there,stop⟩ := stopped
              rcases List.mem_cons.mp there with rfl | later
              · unfold stops at stop
                rw [read] at stop
                rw [Option.all_some,here] at stop
                cases stop
              · exact ⟨other,later,stop⟩
            · have untrusted := Bool.eq_false_iff.mpr here
              rw [walk_untrusted untrusted,walk_untrusted untrusted]
      · rw [if_pos passed,if_pos passed]

theorem clientIp_behind (remote left : String) {rest : String}
    (stopped : ∃ token ∈ Text.split ',' rest, stops lib trusted token = true) :
    clientIp lib trusted ⟨remote,left ++ ("," ++ rest)⟩ = clientIp lib trusted ⟨remote,rest⟩ := by
  have nearest : ∃ token ∈ (Text.split ',' rest).reverse, stops lib trusted token = true := by
    obtain ⟨token,there,stop⟩ := stopped
    exact ⟨token,List.mem_reverse.mpr there,stop⟩
  unfold clientIp
  dsimp only
  rw [show "," = String.ofList [','] from rfl,Text.split_append,List.reverse_append]
  cases parse lib remote with
  | none => rfl
  | some peer =>
      dsimp only
      rw [walk_stopped nearest]

end walked

-- Whatever is written left of a hop that is not a proxy of ours, or is no address, has
-- no effect; and the header has none when no proxy is trusted, or not the peer.
theorem client_ip_resists (lib : Library) (trusted : List Network) (remote : String) :
    (∀ left left' rest, (∃ token ∈ Text.split ',' rest, stops lib trusted token = true) →
      clientIp lib trusted ⟨remote,left ++ ("," ++ rest)⟩ = clientIp lib trusted ⟨remote,left' ++ ("," ++ rest)⟩) ∧
    (trusted = [] ∨ (∀ peer, parse lib remote = some peer → listed trusted peer = false) →
      ∀ header header', clientIp lib trusted ⟨remote,header⟩ = clientIp lib trusted ⟨remote,header'⟩) := by
  constructor
  · intro left left' rest stopped
    rw [clientIp_behind remote left stopped,clientIp_behind remote left' stopped]
  · intro untrusted header header'
    unfold clientIp
    cases read : parse lib remote with
    | none => rfl
    | some peer =>
        dsimp only
        rcases untrusted with none_ | outside
        · rw [if_pos none_,if_pos none_]
        · rw [outside peer read]
          rfl

section example_proxies

def exampleLibrary : Library where
  ipAddress := fun text =>
    if text = "10.0.0.7" then some (.v4 0x0A000007#32)
    else if text = "203.0.113.9" then some (.v4 0xCB007109#32)
    else none
  text := fun addr => if addr = .v4 0x0A000007#32 then "10.0.0.7" else "203.0.113.9"

theorem octet_fits : 8 ≤ 32 := by decide

def exampleTrusted : List Network := [.v4 (Block.around 0x0A000000#32 8 octet_fits)]

theorem forged_hops_ignored :
    clientIp exampleLibrary exampleTrusted ⟨"10.0.0.7","198.51.100.1" ++ ("," ++ "203.0.113.9:4711, 10.0.0.7")⟩ =
      clientIp exampleLibrary exampleTrusted ⟨"10.0.0.7","x,[::1]" ++ ("," ++ "203.0.113.9:4711, 10.0.0.7")⟩ ∧
    clientIp exampleLibrary exampleTrusted ⟨"203.0.113.9","10.0.0.7"⟩ =
      clientIp exampleLibrary exampleTrusted ⟨"203.0.113.9",""⟩ :=
  ⟨(client_ip_resists exampleLibrary exampleTrusted "10.0.0.7").1 _ _ _ ⟨"203.0.113.9:4711",by decide,by decide⟩,
    (client_ip_resists exampleLibrary exampleTrusted "203.0.113.9").2 (.inr fun peer read => by
      have known : parse exampleLibrary "203.0.113.9" = some (.v4 0xCB007109#32) := by decide
      rw [known] at read
      rw [← Option.some.inj read]
      decide) _ _⟩

example : clientIp exampleLibrary exampleTrusted ⟨"10.0.0.7","198.51.100.1,203.0.113.9:4711, 10.0.0.7"⟩ = "203.0.113.9" := by
  decide

end example_proxies

end Osds.Network
