import ProviderCode.Proofs.JsonTokens

/-!
# Trees of a written value

The compact text of a value is read into the tree of the value, and nothing is left over. The reader
works through the tokens with a stack of open containers; the tokens of a value take it from where a
value is due to where the stack goes on after it.
-/

namespace ProviderCode.Json

open Decimal (Numeral)

/-! ### Documents of one number -/

namespace Tree

def isContainer : Tree → Bool
  | .array _ _ | .object _ _ => true
  | _ => false

end Tree

namespace Document

/-- Whether something is open, or a container is complete. -/
def inContainer : Due → List Frame → Bool
  | .value, frames => !frames.isEmpty
  | .nothing root, _ => root.isContainer
  | _, _ => true

theorem abandon_isContainer : ∀ (frames : List Frame) {value : Tree},
    value.isContainer ∨ frames ≠ [] → (abandon value frames).root.isContainer
  | [], _, h => h.resolve_right fun hframes => hframes rfl
  | .array _ :: frames, _, _ => abandon_isContainer frames (.inl rfl)
  | .object _ _ :: frames, _, _ => abandon_isContainer frames (.inl rfl)

theorem resume_inContainer {value : Tree} : ∀ {frames : List Frame},
    value.isContainer ∨ frames ≠ [] → inContainer (resume value frames).1 (resume value frames).2
  | [], h => h.resolve_right fun hframes => hframes rfl
  | .array _ :: _, _ => rfl
  | .object _ _ :: _, _ => rfl

/-- What opens a container is read as a container. -/
theorem build_isContainer {due : Due} {frames : List Frame} {tokens : List Token}
    (h : inContainer due frames) : (build due frames tokens).root.isContainer := by
  have hopen : ∀ {frames}, inContainer .value frames → frames ≠ [] := by
    rintro _ h rfl
    cases h
  fun_induction build due frames tokens
  case case1 => exact h
  case case2 | case6 => exact abandon_isContainer _ (.inr (hopen h))
  case case3 ih => exact ih (resume_inContainer (.inr (hopen h)))
  -- Everywhere else a container goes on, ends or breaks off.
  all_goals first
    | exact abandon_isContainer _ (.inl rfl)
    | exact abandon_isContainer _ (.inr (List.cons_ne_nil _ _))
    | next ih => exact ih (resume_inContainer (.inl rfl))
    | next ih => exact ih rfl

/-- A document that is a number is the text of one number. -/
theorem scan_of_ofText {text : String} {n : Numeral} (h : ofText text = ⟨.number n, false⟩) :
    Token.scan text.toList = [.number n] := by
  have hclosed : ∀ due frames tokens, build due frames tokens = ⟨.number n, false⟩ →
      ¬ inContainer due frames := by
    intro due frames tokens hbuild hopen
    have hcontainer : (build due frames tokens).root.isContainer := build_isContainer hopen
    rw [hbuild] at hcontainer
    cases hcontainer
  -- A token that is a whole value is the document's value, and nothing follows it.
  have hwhole : ∀ {value rest}, build (.nothing value) [] rest = ⟨.number n, false⟩ →
      value = .number n ∧ rest = [] := by
    intro value rest hbuild
    cases rest with
    | nil => exact ⟨congrArg Document.root hbuild, rfl⟩
    | cons token rest =>
      have htrailing : true = false := congrArg Document.trailing hbuild
      cases htrailing
  rw [ofText] at h
  cases htokens : Token.scan text.toList with
  | nil =>
    rw [htokens] at h
    cases h
  | cons token rest =>
    rw [htokens] at h
    cases token with
    | number m =>
      obtain ⟨hnumber, rfl⟩ := hwhole h
      rw [Tree.number.inj hnumber]
    | null => cases (hwhole h).1
    | bool b => cases (hwhole h).1
    | string text => cases (hwhole h).1
    | openArray => exact absurd rfl (hclosed .firstItem [] rest h)
    | openObject => exact absurd rfl (hclosed .firstKey [] rest h)
    | closeArray | closeObject | comma | colon | broken => cases h

end Document

/-! ### Values -/

namespace Value

mutual

/-- The tree of a value; a floating point number is the number of its text. -/
def tree : Value → Tree
  | .null => .null
  | .bool b => .bool b
  | .integer i => .number (integerNumeral i)
  | .float x => (Document.ofText (floatText x)).root
  | .string s => .string (some s)
  | .array items => .array (itemTrees items) .closed
  | .object members => .object (memberTrees members) .closed
termination_by structural value => value

def itemTrees : List Value → List Tree
  | [] => []
  | item :: items => item.tree :: itemTrees items
termination_by structural items => items

def memberTrees : List (String × Value) → List (Option String × Tree)
  | [] => []
  | (key, value) :: members => (some key, value.tree) :: memberTrees members
termination_by structural members => members

end

theorem itemTrees_eq_map : ∀ items : List Value, itemTrees items = items.map tree
  | [] => rfl
  | item :: items => congrArg (item.tree :: ·) (itemTrees_eq_map items)

theorem memberTrees_eq_map :
    ∀ members : List (String × Value), memberTrees members = members.map fun m => (some m.1, m.2.tree)
  | [] => rfl
  | (key, value) :: members => congrArg ((some key, value.tree) :: ·) (memberTrees_eq_map members)

theorem tree_float {x : Float} {n : Numeral} (hn : Token.scan (floatText x).toList = [.number n]) :
    tree (.float x) = .number n := by
  rw [tree, Document.ofText, hn]
  rfl

open Document (build resume)

/-- No value starts with the end of an array. -/
theorem build_firstItem : ∀ {value : Value}, value.Readable → ∀ (frames : List Frame)
    (rest : List Token), build .firstItem frames (value.tokens ++ rest) =
      build .value (.array [] :: frames) (value.tokens ++ rest)
  | .float x, hvalue, frames, rest => by
    obtain ⟨n, hn, -⟩ := hvalue
    rw [tokens, hn]
    rfl
  | .null, _, _, _ | .bool _, _, _, _ | .integer _, _, _, _ | .string _, _, _, _ => rfl
  | .array [], _, _, _ | .array (_ :: _), _, _, _ => rfl
  | .object [], _, _, _ | .object (_ :: _), _, _, _ => rfl

mutual

/-- The tokens of a value are read into its tree, whatever is open around it. -/
theorem build_tokens : ∀ {value : Value}, value.Readable → ∀ (frames : List Frame)
    (rest : List Token), build .value frames (value.tokens ++ rest) =
      build (resume value.tree frames).1 (resume value.tree frames).2 rest
  | .null, _, _, _ | .bool _, _, _, _ | .integer _, _, _, _ | .string _, _, _, _ => rfl
  | .float x, hvalue, frames, rest => by
    obtain ⟨n, hn, -⟩ := hvalue
    rw [tokens, tree_float hn, hn]
    rfl
  | .array [], _, _, _ => rfl
  | .array (item :: items), ⟨hitem, hitems⟩, frames, rest => by
    have htokens : tokens (.array (item :: items)) ++ rest =
        .openArray :: (item.tokens ++ (itemTokens items ++ .closeArray :: rest)) := by
      rw [tokens]
      simp
    calc build .value frames (tokens (.array (item :: items)) ++ rest)
        = build .firstItem frames (item.tokens ++ (itemTokens items ++ .closeArray :: rest)) := by
          rw [htokens]
          rfl
      _ = build (.afterItem [item.tree]) frames (itemTokens items ++ .closeArray :: rest) := by
          rw [build_firstItem hitem, build_tokens hitem]
          rfl
      _ = _ := by
          rw [build_itemTokens hitems, tree, itemTrees]
          rfl
  | .object [], _, _, _ => rfl
  | .object ((key, value) :: members), ⟨hvalue, hmembers⟩, frames, rest => by
    have htokens : tokens (.object ((key, value) :: members)) ++ rest =
        .openObject :: .string (some key) :: .colon ::
          (value.tokens ++ (memberTokens members ++ .closeObject :: rest)) := by
      rw [tokens]
      simp
    calc build .value frames (tokens (.object ((key, value) :: members)) ++ rest)
        = build .value (.object [] (some key) :: frames)
            (value.tokens ++ (memberTokens members ++ .closeObject :: rest)) := by
          rw [htokens]
          rfl
      _ = build (.afterMember [(some key, value.tree)]) frames
            (memberTokens members ++ .closeObject :: rest) := by
          rw [build_tokens hvalue]
          rfl
      _ = _ := by
          rw [build_memberTokens hmembers, tree, memberTrees]
          rfl
termination_by structural value => value

theorem build_itemTokens : ∀ {items : List Value}, ItemsReadable items → ∀ (seen : List Tree)
    (frames : List Frame) (rest : List Token),
    build (.afterItem seen) frames (itemTokens items ++ .closeArray :: rest) =
      build (resume (.array (seen.reverse ++ itemTrees items) .closed) frames).1
        (resume (.array (seen.reverse ++ itemTrees items) .closed) frames).2 rest
  | [], _, seen, frames, rest => by
    rw [itemTrees, List.append_nil]
    rfl
  | item :: items, ⟨hitem, hitems⟩, seen, frames, rest => by
    have htokens : itemTokens (item :: items) ++ .closeArray :: rest =
        .comma :: (item.tokens ++ (itemTokens items ++ .closeArray :: rest)) := by
      rw [itemTokens]
      simp
    have hstep : build (.afterItem seen) frames (itemTokens (item :: items) ++ .closeArray :: rest) =
        build (.afterItem (item.tree :: seen)) frames (itemTokens items ++ .closeArray :: rest) := by
      rw [htokens]
      exact build_tokens hitem (.array seen :: frames) _
    rw [hstep, build_itemTokens hitems, itemTrees, List.reverse_cons, List.append_assoc]
    rfl
termination_by structural items => items

theorem build_memberTokens : ∀ {members : List (String × Value)}, MembersReadable members →
    ∀ (seen : List (Option String × Tree)) (frames : List Frame) (rest : List Token),
    build (.afterMember seen) frames (memberTokens members ++ .closeObject :: rest) =
      build (resume (.object (seen.reverse ++ memberTrees members) .closed) frames).1
        (resume (.object (seen.reverse ++ memberTrees members) .closed) frames).2 rest
  | [], _, seen, frames, rest => by
    rw [memberTrees, List.append_nil]
    rfl
  | (key, value) :: members, ⟨hvalue, hmembers⟩, seen, frames, rest => by
    have htokens : memberTokens ((key, value) :: members) ++ .closeObject :: rest =
        .comma :: .string (some key) :: .colon ::
          (value.tokens ++ (memberTokens members ++ .closeObject :: rest)) := by
      rw [memberTokens]
      simp
    have hstep : build (.afterMember seen) frames
        (memberTokens ((key, value) :: members) ++ .closeObject :: rest) =
        build (.afterMember ((some key, value.tree) :: seen)) frames
          (memberTokens members ++ .closeObject :: rest) := by
      rw [htokens]
      exact build_tokens hvalue (.object seen (some key) :: frames) _
    rw [hstep, build_memberTokens hmembers, memberTrees, List.reverse_cons, List.append_assoc]
    rfl
termination_by structural members => members

end

/-- The compact text of a value is one document, which is the tree of the value. -/
theorem ofText_compact {value : Value} (hvalue : value.Readable) :
    Document.ofText value.compact = ⟨value.tree, false⟩ := by
  have hscan : Token.scan value.compact.toList = value.tokens ++ [] := by
    have h : Token.scan (value.compact.toList ++ []) = value.tokens ++ Token.scan [] :=
      scan_compact hvalue rfl
    rwa [List.append_nil, Token.scan_nil] at h
  rw [Document.ofText, hscan, build_tokens hvalue]
  rfl

/-! ### Depth -/

mutual

/-- How many containers are inside each other. -/
def depth : Value → Nat
  | .null | .bool _ | .integer _ | .float _ | .string _ => 0
  | .array items => itemsDepth items + 1
  | .object members => membersDepth members + 1
termination_by structural value => value

def itemsDepth : List Value → Nat
  | [] => 0
  | item :: items => max item.depth (itemsDepth items)
termination_by structural items => items

def membersDepth : List (String × Value) → Nat
  | [] => 0
  | (_, value) :: members => max value.depth (membersDepth members)
termination_by structural members => members

end

theorem itemsDepth_le_iff {room : Nat} : ∀ {items : List Value},
    itemsDepth items ≤ room ↔ ∀ item ∈ items, item.depth ≤ room
  | [] => iff_of_true (Nat.zero_le _) fun _ h => absurd h List.not_mem_nil
  | _ :: _ => by rw [itemsDepth, Nat.max_le, List.forall_mem_cons, itemsDepth_le_iff]

theorem membersDepth_le_iff {room : Nat} : ∀ {members : List (String × Value)},
    membersDepth members ≤ room ↔ ∀ member ∈ members, member.2.depth ≤ room
  | [] => iff_of_true (Nat.zero_le _) fun _ h => absurd h List.not_mem_nil
  | (_, _) :: _ => by rw [membersDepth, Nat.max_le, List.forall_mem_cons, membersDepth_le_iff]

mutual

/-- The tree of a value has no fault if there is room for its containers. -/
theorem readFault?_tree : ∀ {value : Value}, value.Readable → ∀ {room : Nat},
    value.depth ≤ room → value.tree.readFault? room = none
  | .null, _, _, _ | .bool _, _, _, _ | .string _, _, _, _ => rfl
  | .integer i, hvalue, _, _ => if_pos hvalue
  | .float x, hvalue, _, _ => by
    obtain ⟨n, hn, hamount⟩ := hvalue
    rw [tree_float hn]
    exact if_pos hamount
  | .array items, hvalue, 0, hroom => absurd hroom (Nat.not_succ_le_zero _)
  | .array items, hvalue, room + 1, hroom => by
    have hitems : readItemsFault? (itemTrees items) room = none :=
      readItemsFault?_itemTrees hvalue (Nat.le_of_succ_le_succ hroom)
    rw [tree, Tree.readFault?, hitems]
    rfl
  | .object members, hvalue, 0, hroom => absurd hroom (Nat.not_succ_le_zero _)
  | .object members, hvalue, room + 1, hroom => by
    have hmembers : readMembersFault? (memberTrees members) room = none :=
      readMembersFault?_memberTrees hvalue (Nat.le_of_succ_le_succ hroom)
    rw [tree, Tree.readFault?, hmembers]
    rfl
termination_by structural value => value

theorem readItemsFault?_itemTrees : ∀ {items : List Value}, ItemsReadable items →
    ∀ {room : Nat}, itemsDepth items ≤ room → readItemsFault? (itemTrees items) room = none
  | [], _, _, _ => rfl
  | item :: items, ⟨hitem, hitems⟩, room, hroom => by
    obtain ⟨hroomItem, hroomItems⟩ := Nat.max_le.mp hroom
    rw [itemTrees, readItemsFault?, readFault?_tree hitem hroomItem,
      readItemsFault?_itemTrees hitems hroomItems]
    rfl
termination_by structural items => items

theorem readMembersFault?_memberTrees : ∀ {members : List (String × Value)},
    MembersReadable members → ∀ {room : Nat}, membersDepth members ≤ room →
      readMembersFault? (memberTrees members) room = none
  | [], _, _, _ => rfl
  | (key, value) :: members, ⟨hvalue, hmembers⟩, room, hroom => by
    obtain ⟨hroomValue, hroomMembers⟩ := Nat.max_le.mp hroom
    rw [memberTrees, readMembersFault?, readFault?_tree hvalue hroomValue,
      readMembersFault?_memberTrees hmembers hroomMembers]
    rfl
termination_by structural members => members

end

end Value

end ProviderCode.Json
