import Reckon.Proofs.Token.Sound

/-!
Signs. A `+` or `-` is a binary or a unary operator; `turned` is the other of the two kinds. The
token before it decides: in a scan a sign is binary if an operand ends there, and unary if not.
Tokens with the same texts have at most one way of being decided so.
-/

namespace Reckon.Token

/-- The other kind that a sign can have; what is no sign has no other kind. -/
def Kind.turned : Kind → Kind
  | binary (.arith .add) => unary .pos
  | binary (.arith .sub) => unary .neg
  | unary .pos => binary (.arith .add)
  | unary .neg => binary (.arith .sub)
  | k => k

/-- A binary sign stands after an operand only, and a unary one only where none ends. -/
def Kind.Placed (after : Bool) : Kind → Prop
  | binary (.arith .add) | binary (.arith .sub) => after = true
  | unary .pos | unary .neg => after = false
  | _ => True

/-- The same token, or the sign of the other kind. -/
def Turned (k k' : Token) : Prop :=
  k' = k ∨ k' = { k with kind := k.kind.turned }

/-- Each sign is placed as the token before it says; `after` holds if an operand ends
before the first. -/
def Decided : Bool → List Token → Prop
  | _, [] => True
  | after, k :: ks => k.kind.Placed after ∧ Decided k.kind.endsOperand ks

/-- An operand ends with the last token, or before the first one if there is none. -/
def ends : Bool → List Token → Bool
  | after, [] => after
  | _, k :: ks => ends k.kind.endsOperand ks

section

variable {after : Bool} {k : Token} {v w : List Token}

lemma ends_append (after : Bool) (v w : List Token) :
    ends after (v ++ w) = ends (ends after v) w := by
  induction v generalizing after with
  | nil => rfl
  | cons k v ih => exact ih _

lemma ends_eq_getLast? (after : Bool) (v : List Token) :
    ends after v = (v.getLast?.map (·.kind.endsOperand)).getD after := by
  induction v generalizing after with
  | nil => rfl
  | cons k v ih =>
    rw [ends, ih, List.getLast?_cons]
    cases v.getLast? <;> rfl

lemma decided_append : Decided after (v ++ w) ↔ Decided after v ∧ Decided (ends after v) w := by
  induction v generalizing after with
  | nil => simp [Decided, ends]
  | cons k v ih => simp [Decided, ends, ih, and_assoc]

/-- A sign in the middle is placed as the last token before it says. -/
lemma Decided.placed (h : Decided after (v ++ k :: w)) : k.kind.Placed (ends after v) :=
  (decided_append.1 h).2.1

end

/-! ### Scans -/

lemma placed_pair {c d : Char} {kind : Kind} (h : pair? c d = some kind) (after : Bool) :
    kind.Placed after := by
  unfold pair? at h
  split at h <;> cases h <;> trivial

lemma placed_single {after : Bool} {c : Char} {kind : Kind} (h : single? after c = some kind) :
    kind.Placed after := by
  unfold single? at h
  cases after <;> split at h <;> cases h <;> trivial

/-- What is no operator is placed anywhere. -/
lemma placed_lexeme {after : Bool} {c : Char} {cs : List Char} {l : Lexeme}
    (h : lexeme after c cs = .ok l) : l.kind.Placed after := by
  cases lexed_lexeme h with
  | string hk => rw [hk]; trivial
  | number hc hn => rcases number_kind hc hn with hk | hk <;> rw [hk] <;> trivial
  | word hc => rcases word_kind c cs with hk | hk | hk <;> rw [hk] <;> trivial
  | pair hd hp => exact placed_pair hp after
  | single hp hs => exact placed_single hs

lemma decided_read {after : Bool} {pos : Nat} {cs : List Char} {ts : List Token}
    (h : read after pos cs = .ok ts) : Decided after ts := by
  replace h := scanned_read h
  induction h with
  | stop => exact ⟨trivial, trivial⟩
  | blank _ _ ih => exact ih
  | token _ hl _ ih => exact ⟨placed_lexeme hl, ih⟩

theorem decided_scan {source : String} {ts : List Token} (h : scan source = .ok ts) :
    Decided false ts :=
  decided_read (read_of_scan h)

/-! ### Other kinds of signs -/

section

variable {after : Bool} {k k' : Token}

lemma Kind.turned_eq_stop {kind : Kind} : kind.turned = .stop ↔ kind = .stop := by
  unfold Kind.turned
  split <;> simp

/-- Both kinds of a sign are placed nowhere. -/
lemma Kind.turned_of_placed {kind : Kind} (h : kind.Placed after) (h' : kind.turned.Placed after) :
    kind.turned = kind := by
  unfold Kind.turned at h' ⊢
  split at h' <;> simp_all [Kind.Placed]

lemma Turned.stop_iff (h : Turned k k') : k'.kind = .stop ↔ k.kind = .stop := by
  rcases h with rfl | rfl
  · exact Iff.rfl
  · exact Kind.turned_eq_stop

lemma Turned.eq_of_placed (h : Turned k k') (hk : k.kind.Placed after)
    (hk' : k'.kind.Placed after) : k' = k := by
  rcases h with rfl | rfl
  · rfl
  · rw [Kind.turned_of_placed hk hk']

end

end Reckon.Token
