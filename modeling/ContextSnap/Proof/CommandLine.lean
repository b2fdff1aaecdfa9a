import ContextSnap.Cli.CommandLine

/-!
# Command lines and snapshot differences

Every command line reads in exactly one way as a sequence of words, flags and options, whatever the
words are, and `parse_args` takes from it what that reading says. A difference between two snapshots
names the apps that one of them has and the other has not.
-/

namespace ContextSnap.Cli

/-! ### Items -/

/-- A part of a command line. What stands behind `=` may be empty. -/
inductive Item where
  | word (text : Bytes)
  | flag (name : Bytes) (attached : Option Bytes)
  | joined (name value : Bytes)
  /-- An option with its value in the next word, and with a `=` in its own or without. -/
  | separate (name : Bytes) (equals : Bool) (value : Bytes)
  /-- An option whose value is missing, at the end. -/
  | unfinished (name : Bytes) (equals : Bool)
  deriving DecidableEq

/-- The word of an option with what is attached to it. -/
def optionWord (name : Bytes) (attached : Option Bytes) : Bytes :=
  str "--" ++ (name ++ (attached.map (61 :: ·)).getD [])

def equalsSign (equals : Bool) : Option Bytes := if equals then some [] else none

namespace Item

def tokens : Item → List Bytes
  | .word text => [text]
  | .flag name attached => [optionWord name attached]
  | .joined name value => [optionWord name (some value)]
  | .separate name equals value => [optionWord name (equalsSign equals), value]
  | .unfinished name equals => [optionWord name (equalsSign equals)]

def Legal : Item → Prop
  | .word text => isOption text = false
  | .flag name _ => isBooleanFlag name = true
  | .joined name value => isBooleanFlag name = false ∧ 61 ∉ name ∧ value ≠ []
  | .separate name _ _ | .unfinished name _ => isBooleanFlag name = false ∧ 61 ∉ name

def isUnfinished : Item → Bool
  | .unfinished _ _ => true
  | _ => false

/-- The option that an item sets. -/
def setting : Item → Option (Bytes × Bytes)
  | .word _ => none
  | .flag name attached =>
      some (name, if attached.getD [] = [] then str "true" else attached.getD [])
  | .joined name value => some (name, value)
  | .separate name _ value => some (name, value)
  | .unfinished name _ => some (name, [])

def text : Item → Option Bytes
  | .word text => some text
  | _ => none

end Item

/-- Only the last option may be without its value. -/
def LegalLine : List Item → Prop
  | [] => True
  | item :: items => item.Legal ∧ (item.isUnfinished = true → items = []) ∧ LegalLine items

/-- What a command line says: the first word that is not empty is the command, and of the options
with one name the last one counts. -/
def meaning (items : List Item) : CommandLine :=
  let words := (items.filterMap Item.text).dropWhile (· = [])
  { command := words.headD []
    positional := words.tail
    options := fun name =>
      ((items.filterMap Item.setting).reverse.find? fun setting => setting.1 = name).map (·.2) }

/-! ### The words of options -/

theorem isOption_optionWord (name : Bytes) (attached : Option Bytes) :
    isOption (optionWord name attached) = true := by
  rw [isOption, List.isPrefixOf_iff_prefix]
  exact List.prefix_append _ _

theorem drop_optionWord (name : Bytes) (attached : Option Bytes) :
    (optionWord name attached).drop 2 = name ++ (attached.map (61 :: ·)).getD [] := rfl

theorem splitOption_optionWord {name : Bytes} (hname : 61 ∉ name) (attached : Option Bytes) :
    splitOption ((optionWord name attached).drop 2) = (name, attached.getD []) := by
  have hnot : ∀ c ∈ name, decide (c = 61) = false := fun c hc =>
    decide_eq_false fun h => hname (h ▸ hc)
  rw [drop_optionWord, splitOption]
  cases attached with
  | none =>
      have hfind : (name ++ []).findIdx? (· = 61) = none := by
        rw [List.append_nil, List.findIdx?_eq_none_iff]
        exact hnot
      rw [Option.map_none, Option.getD_none, hfind]
      simp
  | some value =>
      have hfind : (name ++ 61 :: value).findIdx? (· = 61) = some name.length := by
        rw [List.findIdx?_append, List.findIdx?_eq_none_iff.mpr hnot, List.findIdx?_cons]
        simp
      rw [Option.map_some, Option.getD_some, hfind]
      simp

theorem equals_notMem_flag {name : Bytes} (h : isBooleanFlag name = true) : 61 ∉ name := by
  have hall : ∀ flag ∈ booleanFlags, (61 : UInt8) ∉ flag := by decide
  obtain ⟨flag, hflag, heq⟩ := List.any_eq_true.mp h
  exact of_decide_eq_true heq ▸ hall flag hflag

/-- Every option word has one name and one attached text. -/
theorem exists_optionWord {token : Bytes} (h : isOption token = true) :
    ∃ name attached, 61 ∉ name ∧ token = optionWord name attached := by
  obtain ⟨body, rfl⟩ := List.isPrefixOf_iff_prefix.mp h
  by_cases hequals : (61 : UInt8) ∈ body
  · obtain ⟨name, value, rfl, hname⟩ := List.eq_append_cons_of_mem hequals
    exact ⟨name, some value, hname, rfl⟩
  · exact ⟨body, none, hequals, by rw [optionWord]; simp⟩

theorem optionWord_inj {name name' : Bytes} {attached attached' : Option Bytes} (h : 61 ∉ name)
    (h' : 61 ∉ name') (heq : optionWord name attached = optionWord name' attached') :
    name = name' ∧ attached = attached' := by
  have hbody := List.append_cancel_left heq
  have hspan : ∀ {name : Bytes} {attached : Option Bytes}, 61 ∉ name →
      (name ++ (attached.map (61 :: ·)).getD []).takeWhile (· ≠ 61) = name := by
    intro name attached hname
    have hall : ∀ c ∈ name, decide (c ≠ 61) = true := fun c hc =>
      decide_eq_true fun hc' => hname (hc' ▸ hc)
    rw [List.takeWhile_append_of_pos hall]
    cases attached <;> simp
  have hname : name = name' := by rw [← hspan h, hbody, hspan h']
  subst hname
  refine ⟨rfl, ?_⟩
  have hattached := List.append_cancel_left hbody
  cases attached <;> cases attached' <;> simp_all

/-! ### Reading -/

/-- What an item does to the arguments so far. -/
def CommandLine.apply (args : CommandLine) (item : Item) : CommandLine :=
  match item.setting with
  | some (name, value) => args.set name value
  | none => (item.text.map args.word).getD args

section Parse

variable {args : CommandLine} {name value : Bytes} {rest : List Bytes}

theorem parseTokens_word {token : Bytes} (h : isOption token = false) :
    parseTokens args (token :: rest) = parseTokens (args.word token) rest := by
  cases rest <;> simp [parseTokens, h]

theorem parseTokens_flag (h : isBooleanFlag name = true) (attached : Option Bytes) :
    parseTokens args (optionWord name attached :: rest)
      = parseTokens
          (args.set name (if attached.getD [] = [] then str "true" else attached.getD [])) rest := by
  have hsplit := splitOption_optionWord (equals_notMem_flag h) attached
  cases rest <;> simp [parseTokens, isOption_optionWord, hsplit, h]

theorem parseTokens_joined (h : isBooleanFlag name = false) (hname : 61 ∉ name)
    (hvalue : value ≠ []) :
    parseTokens args (optionWord name (some value) :: rest)
      = parseTokens (args.set name value) rest := by
  have hsplit := splitOption_optionWord hname (some value)
  cases rest <;> simp [parseTokens, isOption_optionWord, hsplit, h, hvalue]

theorem getD_equalsSign (equals : Bool) : (equalsSign equals).getD [] = [] := by
  cases equals <;> rfl

theorem parseTokens_separate (h : isBooleanFlag name = false) (hname : 61 ∉ name)
    (equals : Bool) :
    parseTokens args (optionWord name (equalsSign equals) :: value :: rest)
      = parseTokens (args.set name value) rest := by
  have hsplit := splitOption_optionWord hname (equalsSign equals)
  rw [getD_equalsSign] at hsplit
  simp [parseTokens, isOption_optionWord, hsplit, h]

theorem parseTokens_unfinished (h : isBooleanFlag name = false) (hname : 61 ∉ name)
    (equals : Bool) :
    parseTokens args [optionWord name (equalsSign equals)] = args.set name [] := by
  have hsplit := splitOption_optionWord hname (equalsSign equals)
  rw [getD_equalsSign] at hsplit
  simp [parseTokens, isOption_optionWord, hsplit, h]

/-- One item more. -/
theorem parseTokens_item {item : Item} (h : item.Legal)
    (hlast : item.isUnfinished = true → rest = []) :
    parseTokens args (item.tokens ++ rest) = parseTokens (args.apply item) rest := by
  cases item with
  | word text => exact parseTokens_word h
  | flag name attached => exact parseTokens_flag h attached
  | joined name value => exact parseTokens_joined h.1 h.2.1 h.2.2
  | separate name equals value => exact parseTokens_separate h.1 h.2 equals
  | unfinished name equals =>
      rw [hlast rfl, Item.tokens, List.append_nil, parseTokens_unfinished h.1 h.2]
      rfl

theorem parseTokens_items {items : List Item} (h : LegalLine items) :
    parseTokens args (items.flatMap Item.tokens) = items.foldl CommandLine.apply args := by
  induction items generalizing args with
  | nil => rfl
  | cons item items ih =>
      have hlast : item.isUnfinished = true → items.flatMap Item.tokens = [] := by
        intro hunfinished
        rw [h.2.1 hunfinished, List.flatMap_nil]
      rw [List.flatMap_cons, parseTokens_item h.1 hlast, ih h.2.2, List.foldl_cons]

end Parse

theorem apply_word (args : CommandLine) (text : Bytes) :
    args.apply (.word text) = args.word text := rfl

theorem options_apply (args : CommandLine) (item : Item) :
    (args.apply item).options
      = item.setting.elim args.options fun setting =>
          Function.update args.options setting.1 (some setting.2) := by
  cases item with
  | word text =>
      rw [apply_word, CommandLine.word]
      split <;> rfl
  | flag | joined | separate | unfinished => rfl

theorem options_foldl (args : CommandLine) (items : List Item) (name : Bytes) :
    (items.foldl CommandLine.apply args).options name
      = (((items.filterMap Item.setting).reverse.find? fun setting => setting.1 = name).map
          (·.2)).or (args.options name) := by
  induction items generalizing args with
  | nil => rfl
  | cons item items ih =>
      rw [List.foldl_cons, ih, options_apply, List.filterMap_cons]
      cases item.setting with
      | none => rfl
      | some setting =>
          simp only [Option.elim_some, List.reverse_cons, List.find?_append, List.find?_singleton]
          by_cases hname : setting.1 = name
          · subst hname
            rw [Function.update_self]
            cases ((items.filterMap Item.setting).reverse.find? fun other =>
              other.1 = setting.1) <;> simp
          · rw [Function.update_of_ne (Ne.symm hname)]
            simp [hname]

theorem apply_of_setting (args : CommandLine) {item : Item} (h : item.text = none) :
    (args.apply item).command = args.command ∧ (args.apply item).positional = args.positional := by
  cases item with
  | word text => cases h
  | flag | joined | separate | unfinished => exact ⟨rfl, rfl⟩

/-- Behind the command every word is positional. -/
theorem words_behind_command (args : CommandLine) (items : List Item) (hargs : args.command ≠ []) :
    (items.foldl CommandLine.apply args).command = args.command
      ∧ (items.foldl CommandLine.apply args).positional
        = args.positional ++ items.filterMap Item.text := by
  induction items generalizing args with
  | nil => exact ⟨rfl, (List.append_nil _).symm⟩
  | cons item items ih =>
      rw [List.foldl_cons, List.filterMap_cons]
      cases htext : item.text with
      | none =>
          obtain ⟨hcommand, hpositional⟩ := apply_of_setting args htext
          rw [← hcommand, ← hpositional]
          exact ih _ (by rwa [hcommand])
      | some text =>
          obtain rfl : item = .word text := by
            cases item with
            | word other => cases htext; rfl
            | flag | joined | separate | unfinished => cases htext
          rw [apply_word, CommandLine.word, if_neg hargs]
          obtain ⟨hcommand, hpositional⟩ := ih
            { args with positional := args.positional ++ [text] } hargs
          exact ⟨hcommand, hpositional.trans (by simp)⟩

/-- The words in front of the command are empty. -/
theorem words_foldl (args : CommandLine) (items : List Item) (hargs : args.command = []) :
    (items.foldl CommandLine.apply args).command
        = ((items.filterMap Item.text).dropWhile (· = [])).headD []
      ∧ (items.foldl CommandLine.apply args).positional
        = args.positional ++ ((items.filterMap Item.text).dropWhile (· = [])).tail := by
  induction items generalizing args with
  | nil => exact ⟨hargs, (List.append_nil _).symm⟩
  | cons item items ih =>
      rw [List.foldl_cons, List.filterMap_cons]
      cases htext : item.text with
      | none =>
          obtain ⟨hcommand, hpositional⟩ := apply_of_setting args htext
          rw [← hpositional]
          exact ih _ (by rwa [hcommand])
      | some text =>
          obtain rfl : item = .word text := by
            cases item with
            | word other => cases htext; rfl
            | flag | joined | separate | unfinished => cases htext
          rw [apply_word, CommandLine.word, if_pos hargs]
          by_cases hempty : text = []
          · subst hempty
            exact ih { args with command := [] } rfl
          · have hdrop : (text :: items.filterMap Item.text).dropWhile (· = [])
                = text :: items.filterMap Item.text := by simp [hempty]
            simp only [hdrop]
            exact words_behind_command { args with command := text } items hempty

theorem parseArgs_items {items : List Item} (h : LegalLine items) :
    parseArgs (items.flatMap Item.tokens) = meaning items := by
  have hfields : ∀ {left right : CommandLine}, left.options = right.options →
      left.command = right.command → left.positional = right.positional → left = right := by
    rintro ⟨⟨_⟩, _, _⟩ ⟨⟨_⟩, _, _⟩ rfl rfl rfl
    rfl
  obtain ⟨hcommand, hpositional⟩ := words_foldl {} items rfl
  rw [parseArgs, parseTokens_items h]
  apply hfields
  · funext name
    rw [options_foldl, Option.or_none]
    rfl
  · exact hcommand
  · exact hpositional

/-! ### Every command line -/

/-- A word is an item, or an option without a value. -/
theorem exists_item (token : Bytes) :
    (∃ item : Item, item.Legal ∧ item.isUnfinished = false ∧ item.tokens = [token])
      ∨ ∃ name equals, isBooleanFlag name = false ∧ 61 ∉ name
        ∧ token = optionWord name (equalsSign equals) := by
  cases hoption : isOption token with
  | false => exact .inl ⟨.word token, hoption, rfl, rfl⟩
  | true =>
      obtain ⟨name, attached, hname, rfl⟩ := exists_optionWord hoption
      cases hflag : isBooleanFlag name with
      | true => exact .inl ⟨.flag name attached, hflag, rfl, rfl⟩
      | false =>
          cases attached with
          | none => exact .inr ⟨name, false, hflag, hname, rfl⟩
          | some value =>
              by_cases hvalue : value = []
              · subst hvalue
                exact .inr ⟨name, true, hflag, hname, rfl⟩
              · exact .inl ⟨.joined name value, ⟨hflag, hname, hvalue⟩, rfl, rfl⟩

/-- Every command line is made of items. -/
theorem exists_items (tokens : List Bytes) :
    ∃ items, LegalLine items ∧ items.flatMap Item.tokens = tokens := by
  induction tokens using List.twoStepInduction with
  | nil => exact ⟨[], trivial, rfl⟩
  | singleton token =>
      rcases exists_item token with
        ⟨item, hlegal, -, htokens⟩ | ⟨name, equals, hflag, hname, rfl⟩
      · exact ⟨[item], ⟨hlegal, fun _ => rfl, trivial⟩, by rw [List.flatMap_singleton, htokens]⟩
      · exact ⟨[.unfinished name equals], ⟨⟨hflag, hname⟩, fun _ => rfl, trivial⟩, rfl⟩
  | cons_cons token next tokens ihvalue ihnext =>
      rcases exists_item token with
        ⟨item, hlegal, hfinished, htokens⟩ | ⟨name, equals, hflag, hname, rfl⟩
      · obtain ⟨items, hitems, heq⟩ := ihnext next
        refine ⟨item :: items, ⟨hlegal, fun h => ?_, hitems⟩, ?_⟩
        · rw [hfinished] at h
          cases h
        · rw [List.flatMap_cons, htokens, heq, List.singleton_append]
      · obtain ⟨items, hitems, heq⟩ := ihvalue
        refine ⟨.separate name equals next :: items, ⟨⟨hflag, hname⟩, nofun, hitems⟩, ?_⟩
        rw [List.flatMap_cons, heq]
        rfl

/-- The name of an item that is an option, and what is attached to it. -/
def Item.head : Item → Option (Bytes × Option Bytes)
  | .word _ => none
  | .flag name attached => some (name, attached)
  | .joined name value => some (name, some value)
  | .separate name equals _ | .unfinished name equals => some (name, equalsSign equals)

theorem tokens_eq_of_head {item : Item} (h : item.Legal) :
    ∃ word behind, item.tokens = word :: behind ∧
      (item.head = none → isOption word = false) ∧
      ∀ name attached, item.head = some (name, attached) →
        61 ∉ name ∧ word = optionWord name attached := by
  cases item with
  | word text => exact ⟨text, [], rfl, fun _ => h, nofun⟩
  | flag name attached =>
      refine ⟨_, [], rfl, nofun, ?_⟩
      rintro _ _ ⟨⟩
      exact ⟨equals_notMem_flag h, rfl⟩
  | joined name value =>
      refine ⟨_, [], rfl, nofun, ?_⟩
      rintro _ _ ⟨⟩
      exact ⟨h.2.1, rfl⟩
  | separate name equals value =>
      refine ⟨_, [value], rfl, nofun, ?_⟩
      rintro _ _ ⟨⟩
      exact ⟨h.2, rfl⟩
  | unfinished name equals =>
      refine ⟨_, [], rfl, nofun, ?_⟩
      rintro _ _ ⟨⟩
      exact ⟨h.2, rfl⟩

theorem head_eq {a b : Item} {rest rest' : List Bytes} (ha : a.Legal) (hb : b.Legal)
    (heq : a.tokens ++ rest = b.tokens ++ rest') : a.head = b.head := by
  obtain ⟨word, behind, htokens, hnone, hsome⟩ := tokens_eq_of_head ha
  obtain ⟨word', behind', htokens', hnone', hsome'⟩ := tokens_eq_of_head hb
  rw [htokens, htokens'] at heq
  obtain rfl : word = word' := (List.cons.inj heq).1
  cases hheada : a.head with
  | none =>
      cases hheadb : b.head with
      | none => rfl
      | some parts =>
          have hoption := isOption_optionWord parts.1 parts.2
          rw [← (hsome' parts.1 parts.2 hheadb).2, hnone hheada] at hoption
          cases hoption
  | some parts =>
      obtain ⟨hname, hword⟩ := hsome parts.1 parts.2 hheada
      cases hheadb : b.head with
      | none =>
          have hoption := isOption_optionWord parts.1 parts.2
          rw [← hword, hnone' hheadb] at hoption
          cases hoption
      | some parts' =>
          obtain ⟨hname', hword'⟩ := hsome' parts'.1 parts'.2 hheadb
          obtain ⟨hnames, hattached⟩ := optionWord_inj hname hname' (hword.symm.trans hword')
          rw [Prod.ext hnames hattached]

theorem equalsSign_inj {a b : Bool} : equalsSign a = equalsSign b ↔ a = b := by
  cases a <;> cases b <;> simp [equalsSign]

theorem equalsSign_eq_some_iff {equals : Bool} {value : Bytes} :
    equalsSign equals = some value ↔ equals = true ∧ value = [] := by
  cases equals <;> simp [equalsSign, eq_comm]

theorem item_inj {a b : Item} {rest rest' : List Bytes} (ha : a.Legal) (hb : b.Legal)
    (hrest : a.isUnfinished = true → rest = []) (hrest' : b.isUnfinished = true → rest' = [])
    (heq : a.tokens ++ rest = b.tokens ++ rest') : a = b ∧ rest = rest' := by
  have hhead := head_eq ha hb heq
  cases a <;> cases b <;>
    simp_all [Item.head, Item.Legal, Item.tokens, Item.isUnfinished, equalsSign_inj,
      equalsSign_eq_some_iff, @eq_comm _ (some _) (equalsSign _)]

/-- Command lines are not read in two ways. -/
theorem items_inj {items items' : List Item} (h : LegalLine items) (h' : LegalLine items')
    (heq : items.flatMap Item.tokens = items'.flatMap Item.tokens) : items = items' := by
  have hne : ∀ (item : Item) (rest : List Bytes), item.tokens ++ rest ≠ [] := by
    intro item rest
    cases item <;> exact List.cons_ne_nil _ _
  induction items generalizing items' with
  | nil =>
      cases items' with
      | nil => rfl
      | cons item' items' => exact absurd heq.symm (hne _ _)
  | cons item items ih =>
      cases items' with
      | nil => exact absurd heq (hne _ _)
      | cons item' items' =>
          rw [List.flatMap_cons, List.flatMap_cons] at heq
          obtain ⟨rfl, hrest⟩ := item_inj h.1 h'.1 (fun hunfinished => by rw [h.2.1 hunfinished]; rfl)
            (fun hunfinished => by rw [h'.2.1 hunfinished]; rfl) heq
          rw [ih h.2.2 h'.2.2 hrest]

/-- **Command lines.** Every list of words reads in exactly one way as a command line, and the
arguments that the program takes from it are what that reading says. -/
theorem parseArgs_reads (tokens : List Bytes) :
    ∃ items, (LegalLine items ∧ items.flatMap Item.tokens = tokens)
      ∧ (∀ others, LegalLine others → others.flatMap Item.tokens = tokens → others = items)
      ∧ parseArgs tokens = meaning items := by
  obtain ⟨items, hlegal, htokens⟩ := exists_items tokens
  refine ⟨items, ⟨hlegal, htokens⟩, fun others hothers heq => ?_, ?_⟩
  · exact items_inj hothers hlegal (heq.trans htokens.symm)
  · rw [← htokens, parseArgs_items hlegal]

/-! ### Differences -/

section SetDifference

variable {α : Type} [LT α] [LE α] [DecidableLT α] [Std.IsLinearOrder α] [Std.LawfulOrderLT α]

omit [LE α] [Std.IsLinearOrder α] [Std.LawfulOrderLT α] in
theorem setDifference_sublist (as bs : List α) : (setDifference as bs).Sublist as := by
  induction as, bs using setDifference.induct with
  | case1 bs => rw [setDifference]
  | case2 a as => rw [setDifference]
  | case3 a as b bs hlt ih =>
      rw [setDifference, if_pos hlt]
      exact ih.cons_cons a
  | case4 a as b bs hlt hgt ih =>
      rw [setDifference, if_neg hlt, if_pos hgt]
      exact ih
  | case5 a as b bs hlt hgt ih =>
      rw [setDifference, if_neg hlt, if_neg hgt]
      exact ih.cons a

/-- Of two sorted lists, what is in the first one only. -/
theorem mem_setDifference {as bs : List α} (has : as.Pairwise (· < ·)) (hbs : bs.Pairwise (· < ·))
    {x : α} : x ∈ setDifference as bs ↔ x ∈ as ∧ x ∉ bs := by
  induction as, bs using setDifference.induct with
  | case1 bs => simp [setDifference]
  | case2 a as => simp [setDifference]
  | case3 a as b bs hlt ih =>
      have hnot : a ∉ b :: bs := by
        intro hmem
        rcases List.mem_cons.mp hmem with rfl | hmem
        · exact Std.lt_irrefl hlt
        · exact Std.lt_irrefl (Std.lt_trans hlt (List.rel_of_pairwise_cons hbs hmem))
      rw [setDifference, if_pos hlt, List.mem_cons, ih has.of_cons hbs, List.mem_cons (b := a)]
      constructor
      · rintro (rfl | ⟨hmem, hx⟩)
        · exact ⟨.inl rfl, hnot⟩
        · exact ⟨.inr hmem, hx⟩
      · rintro ⟨heq | hmem, hx⟩
        · exact .inl heq
        · exact .inr ⟨hmem, hx⟩
  | case4 a as b bs hlt hgt ih =>
      have hnot : b ∉ a :: as := by
        intro hmem
        rcases List.mem_cons.mp hmem with rfl | hmem
        · exact Std.lt_irrefl hgt
        · exact Std.lt_irrefl (Std.lt_trans hgt (List.rel_of_pairwise_cons has hmem))
      rw [setDifference, if_neg hlt, if_pos hgt, ih has hbs.of_cons, List.mem_cons (b := b)]
      constructor
      · rintro ⟨hmem, hx⟩
        exact ⟨hmem, fun h => h.elim (fun heq => hnot (heq ▸ hmem)) hx⟩
      · rintro ⟨hmem, hx⟩
        exact ⟨hmem, fun h => hx (.inr h)⟩
  | case5 a as b bs hlt hgt ih =>
      obtain rfl : a = b := Std.le_antisymm (Std.not_lt.mp hgt) (Std.not_lt.mp hlt)
      have hnot : a ∉ as := fun hmem => Std.lt_irrefl (List.rel_of_pairwise_cons has hmem)
      rw [setDifference, if_neg hlt, if_neg hgt, ih has.of_cons hbs.of_cons, List.mem_cons,
        List.mem_cons]
      constructor
      · rintro ⟨hmem, hx⟩
        exact ⟨.inr hmem, fun h => h.elim (fun heq => hnot (heq ▸ hmem)) hx⟩
      · rintro ⟨hmem, hx⟩
        exact ⟨hmem.resolve_left fun heq => hx (.inl heq), fun h => hx (.inr h)⟩

end SetDifference

theorem nodup_eraseDups (texts : List Bytes) : texts.eraseDups.Nodup := by
  induction hlength : texts.length using Nat.strong_induction_on generalizing texts with
  | _ count ih =>
      cases texts with
      | nil => exact List.nodup_nil
      | cons text texts =>
          rw [List.eraseDups_cons, List.nodup_cons]
          refine ⟨fun hmem => ?_, ?_⟩
          · have hfiltered := List.of_mem_filter (List.mem_eraseDups.mp hmem)
            simp at hfiltered
          · refine ih _ ?_ _ rfl
            rw [← hlength]
            exact Nat.lt_succ_of_le (List.length_filter_le _ _)

/-- Every app of a snapshot once, in ascending order. -/
theorem pairwise_appIds (snapshot : Snapshot) : (appIds snapshot).Pairwise (· < ·) := by
  have hle := @List.pairwise_mergeSort _ (fun a b : Bytes => decide (a ≤ b))
    (fun a b c hab hbc => decide_eq_true (Std.le_trans (of_decide_eq_true hab) (of_decide_eq_true hbc)))
    (fun a b => by simpa using Std.le_total (a := a) (b := b))
    (snapshot.windows.map (·.process.appId)).eraseDups
  have hnodup : (appIds snapshot).Nodup :=
    (List.mergeSort_perm _ _).nodup_iff.mpr (nodup_eraseDups _)
  exact (hle.and hnodup).imp fun {a b} h => Std.lt_of_le_of_ne (of_decide_eq_true h.1) h.2

/-- Some window of a snapshot is the app's. -/
def Runs (snapshot : Snapshot) (app : Bytes) : Prop :=
  ∃ window ∈ snapshot.windows, window.process.appId = app

theorem mem_appIds {snapshot : Snapshot} {app : Bytes} :
    app ∈ appIds snapshot ↔ Runs snapshot app := by
  rw [appIds, List.mem_mergeSort, List.mem_eraseDups, List.mem_map, Runs]

/-- **Differences.** What `diff` adds are the apps of the second snapshot that the first one does
not have, what it removes are those of the first one that the second one does not have, each of them
once and in ascending order; from what did not go and what came the second list of apps follows. -/
theorem commandDiff_spec (left right : Snapshot) :
    let difference := commandDiff left right
    (∀ app, app ∈ difference.added ↔ Runs right app ∧ ¬ Runs left app)
      ∧ (∀ app, app ∈ difference.removed ↔ Runs left app ∧ ¬ Runs right app)
      ∧ difference.added.Pairwise (· < ·) ∧ difference.removed.Pairwise (· < ·)
      ∧ (appIds right).Perm
        ((appIds left).filter (· ∉ difference.removed) ++ difference.added) := by
  intro difference
  have hleft := pairwise_appIds left
  have hright := pairwise_appIds right
  have hadded : ∀ app, app ∈ difference.added ↔ Runs right app ∧ ¬ Runs left app := by
    intro app
    rw [← mem_appIds, ← mem_appIds]
    exact mem_setDifference hright hleft
  have hremoved : ∀ app, app ∈ difference.removed ↔ Runs left app ∧ ¬ Runs right app := by
    intro app
    rw [← mem_appIds, ← mem_appIds]
    exact mem_setDifference hleft hright
  have haddedSorted : difference.added.Pairwise (· < ·) :=
    hright.sublist (setDifference_sublist _ _)
  have hnodup : ∀ {texts : List Bytes}, texts.Pairwise (· < ·) → texts.Nodup := fun h =>
    List.Pairwise.imp (fun hlt => Std.ne_of_lt hlt) h
  refine ⟨hadded, hremoved, haddedSorted, hleft.sublist (setDifference_sublist _ _), ?_⟩
  rw [List.perm_ext_iff_of_nodup (hnodup hright)]
  · intro app
    rw [List.mem_append, List.mem_filter, decide_eq_true_iff, hremoved, hadded, mem_appIds,
      mem_appIds]
    tauto
  · refine List.nodup_append.mpr ⟨(hnodup hleft).filter _, hnodup haddedSorted, ?_⟩
    rintro app happ other hother rfl
    exact ((hadded app).mp hother).2 (mem_appIds.mp (List.mem_of_mem_filter happ))

end ContextSnap.Cli
