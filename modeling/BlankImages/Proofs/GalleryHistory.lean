import BlankImages.Image.Gallery
import Mathlib.Data.Finset.Card

/-!
# The history of a gallery

A gallery is asked for images and asked about them, in any order, and functions
that keep state are called on images of any age.  A command that returns an
image adds it at the end, and no command does anything else to the images: so
each keeps its number and its shape, whatever is made from it later.  Images are
told apart by their shapes alone, when two of them are compared as well as when
all of them are counted by hashing.
-/

namespace BlankImages

variable {σ : Type}

namespace Gallery

/-! ## What a command can do -/

def Command.makes : Command σ → Bool
  | .create .. | .cifar | .default | .withShape .. | .apply .. => true
  | _ => false

/-- The image that is meant: the one with a number, or the latest. -/
inductive Names (gallery : Gallery) : Option Word → Image → Prop
  | numbered {number : Word} {image : Image}
      (held : gallery.images[number.toNat]? = some image) :
      Names gallery (some number) image
  | latest {earlier : List Image} {image : Image}
      (last : gallery.images = earlier ++ [image]) :
      Names gallery none image

theorem names_iff {gallery : Gallery} {on : Option Word} {image : Image} :
    gallery.Names on image ↔ gallery.get? on = some image := by
  cases on with
  | none =>
      rw [get?, List.getLast?_eq_some_iff]
      constructor
      · intro named
        cases named with
        | latest last =>
            exact ⟨_, last⟩
      · rintro ⟨earlier, last⟩
        exact Names.latest last
  | some number =>
      constructor
      · intro named
        cases named with
        | numbered held =>
            exact held
      · intro held
        exact Names.numbered held

/-- What a command that makes an image comes to: an image of the shape that is
asked for, or what the function answers to the image it is given. -/
inductive Comes (gallery : Gallery) : Command σ → Except Fault Image → Prop
  | create (channels height width : Word) :
      Comes gallery (.create channels height width)
        (.ok ⟨channels, height, width⟩)
  | cifar : Comes gallery .cifar (.ok ⟨3, 32, 32⟩)
  | default : Comes gallery .default (.ok ⟨3, 32, 32⟩)
  | withShape {on : Option Word} {image : Image}
      (named : gallery.Names on image) (channels height width : Word) :
      Comes gallery (.withShape on channels height width)
        (.ok ⟨channels, height, width⟩)
  | apply {on : Option Word} {image : Image}
      (named : gallery.Names on image) (function : Transform σ Image) :
      Comes gallery (.apply on function) (function.call image).1

/-- The answer to a command that has come to an image or to a fault. -/
def Reply.ofOutcome : Except Fault Image → Reply
  | .ok image => .made image
  | .error fault => .faulted fault

def Reply.made? : Reply → Option Image
  | .made image => some image
  | _ => none

/-- The gallery behind a command that has come to an image or to a fault. -/
def add (gallery : Gallery) : Except Fault Image → Gallery
  | .ok image => gallery.push image
  | .error _ => gallery

theorem images_add (gallery : Gallery) (outcome : Except Fault Image) :
    (gallery.add outcome).images =
      gallery.images ++ (Reply.ofOutcome outcome).made?.toList := by
  cases outcome with
  | ok image =>
      rfl
  | error fault =>
      exact (List.append_nil gallery.images).symm

section

variable {gallery after : Gallery} {command : Command σ} {reply : Reply}

theorem obey_of_comes {outcome : Except Fault Image}
    (comes : gallery.Comes command outcome) :
    gallery.obey command = some (Reply.ofOutcome outcome, gallery.add outcome) := by
  cases comes with
  | create channels height width =>
      rfl
  | cifar =>
      rfl
  | default =>
      rfl
  | withShape named channels height width =>
      simp only [obey, names_iff.mp named]
      rfl
  | @apply on image named function =>
      simp only [obey, names_iff.mp named, Option.bind_eq_bind, Option.bind_some]
      cases answer : (function.call image).1 with
      | ok made =>
          rfl
      | error fault =>
          rfl

theorem exists_comes_of_obey (makes : command.makes = true)
    (obeyed : gallery.obey command = some (reply, after)) :
    ∃ outcome, gallery.Comes command outcome := by
  cases command with
  | create channels height width =>
      exact ⟨_, Comes.create channels height width⟩
  | cifar =>
      exact ⟨_, Comes.cifar⟩
  | default =>
      exact ⟨_, Comes.default⟩
  | withShape on channels height width =>
      obtain ⟨image, held, _⟩ := Option.bind_eq_some_iff.mp obeyed
      exact ⟨_, Comes.withShape (names_iff.mpr held) channels height width⟩
  | apply on function =>
      obtain ⟨image, held, _⟩ := Option.bind_eq_some_iff.mp obeyed
      exact ⟨_, Comes.apply (names_iff.mpr held) function⟩
  | _ =>
      cases makes

theorem eq_of_observer (observes : command.makes = false)
    (obeyed : gallery.obey command = some (reply, after)) :
    reply.made? = none ∧ after = gallery := by
  cases command with
  | create channels height width =>
      cases observes
  | cifar =>
      cases observes
  | default =>
      cases observes
  | withShape on channels height width =>
      cases observes
  | apply on function =>
      cases observes
  | equal on other =>
      obtain ⟨image, _, behind⟩ := Option.bind_eq_some_iff.mp obeyed
      obtain ⟨otherImage, _, answered⟩ := Option.bind_eq_some_iff.mp behind
      cases answered
      exact ⟨rfl, rfl⟩
  | distinct =>
      cases obeyed
      exact ⟨rfl, rfl⟩
  | all =>
      cases obeyed
      exact ⟨rfl, rfl⟩
  | _ =>
      obtain ⟨image, _, answered⟩ := Option.bind_eq_some_iff.mp obeyed
      cases answered
      exact ⟨rfl, rfl⟩

theorem images_obey (obeyed : gallery.obey command = some (reply, after)) :
    after.images = gallery.images ++ reply.made?.toList := by
  cases makes : command.makes with
  | true =>
      obtain ⟨outcome, comes⟩ := exists_comes_of_obey makes obeyed
      rw [obey_of_comes comes] at obeyed
      cases obeyed
      exact gallery.images_add outcome
  | false =>
      obtain ⟨noneMade, rfl⟩ := eq_of_observer makes obeyed
      rw [noneMade]
      exact (List.append_nil after.images).symm

end

/-! ## Counting by hashing -/

/-- A hash set of a list has one element for each value in it. -/
theorem size_ofList_eq_card {α : Type} [DecidableEq α] [Hashable α]
    (values : List α) :
    (Std.HashSet.ofList values).size = values.toFinset.card := by
  have sameElements :
      (Std.HashSet.ofList values).Equiv (Std.HashSet.ofList values.dedup) := by
    apply Std.HashSet.Equiv.of_forall_contains_eq
    intro value
    rw [Std.HashSet.contains_ofList, Std.HashSet.contains_ofList,
      Bool.eq_iff_iff, List.contains_iff_mem, List.contains_iff_mem,
      List.mem_dedup]
  have apart :
      values.dedup.Pairwise fun left right => (left == right) = false := by
    refine (List.nodup_dedup values).imp ?_
    intro left right differ
    exact beq_eq_false_iff_ne.mpr differ
  rw [sameElements.size_eq, Std.HashSet.size_ofList apart, List.card_toFinset]

def shapes (gallery : Gallery) : List (Word × Word × Word) :=
  gallery.images.map Image.shape

theorem distinct_eq_card (gallery : Gallery) :
    gallery.distinct = gallery.shapes.toFinset.card := by
  have shapeInjective : Function.Injective Image.shape := by
    intro left right same
    exact Image.shape_inj.mp same
  rw [distinct, size_ofList_eq_card, shapes, List.card_toFinset,
    List.card_toFinset, List.dedup_map_of_injective shapeInjective,
    List.length_map]

theorem distinct_push (gallery : Gallery) (image : Image) :
    (gallery.push image).distinct =
      if image.shape ∈ gallery.shapes then gallery.distinct
      else gallery.distinct + 1 := by
  have pushed :
      (gallery.push image).shapes.toFinset =
        insert image.shape gallery.shapes.toFinset := by
    rw [shapes, images_push, List.map_append, List.toFinset_append,
      List.map_singleton, List.toFinset_cons, List.toFinset_nil,
      Finset.union_comm, Finset.insert_union, Finset.empty_union, shapes]
  rw [distinct_eq_card, distinct_eq_card, pushed, Finset.card_insert_eq_ite]
  simp only [List.mem_toFinset]

end Gallery

/-! ## Functions that keep their state -/

/-- A gallery and the functions that are at hand to be called on its images.
Each of them stays as its last call has left it. -/
structure Studio (σ : Type) where
  gallery : Gallery
  functions : List (Transform σ Image)

namespace Studio

/-- What is done in a studio: the gallery is given a command, or the function
with a number is called on an image of the gallery. -/
inductive Action (σ : Type) where
  | command (command : Gallery.Command σ)
  | call (number : Nat) (on : Option Word)

/-- The command that an action comes to; there is none when no function has the
number. -/
def command? (studio : Studio σ) : Action σ → Option (Gallery.Command σ)
  | .command command => some command
  | .call number on => (studio.functions[number]?).map (.apply on)

/-- The functions behind an action: a function that was called has the state it
reached, also when it faulted. -/
def functionsAfter (studio : Studio σ) : Action σ → List (Transform σ Image)
  | .command _ => studio.functions
  | .call number on =>
      match studio.functions[number]?, studio.gallery.get? on with
      | some function, some image =>
          studio.functions.set number (function.call image).2
      | _, _ => studio.functions

def act (studio : Studio σ) (action : Action σ) :
    Option (Gallery.Reply × Studio σ) := do
  let command ← studio.command? action
  let (reply, gallery) ← studio.gallery.obey command
  return (reply, { gallery, functions := studio.functionsAfter action })

/-- Actions in order.  The answers end before the first action that names what
is not there. -/
def run (studio : Studio σ) : List (Action σ) → List Gallery.Reply × Studio σ
  | [] => ([], studio)
  | action :: rest =>
      match studio.act action with
      | none => ([], studio)
      | some (reply, after) =>
          let (replies, last) := after.run rest
          (reply :: replies, last)

def Comes (studio : Studio σ) (action : Action σ)
    (outcome : Except Fault Image) : Prop :=
  ∃ command, studio.command? action = some command ∧
    studio.gallery.Comes command outcome

/-! ### One action -/

section

variable {studio after : Studio σ} {action : Action σ} {reply : Gallery.Reply}

theorem act_eq_some_iff :
    studio.act action = some (reply, after) ↔
      ∃ command gallery, studio.command? action = some command ∧
        studio.gallery.obey command = some (reply, gallery) ∧
        after = { gallery, functions := studio.functionsAfter action } := by
  simp only [act, Option.bind_eq_bind, Option.bind_eq_some_iff, Prod.exists,
    Option.pure_def, Option.some.injEq, Prod.mk.injEq]
  constructor
  · rintro ⟨command, named, found, gallery, obeyed, rfl, rfl⟩
    exact ⟨command, gallery, named, obeyed, rfl⟩
  · rintro ⟨command, gallery, named, obeyed, rfl⟩
    exact ⟨command, named, reply, gallery, obeyed, rfl, rfl⟩

theorem act_of_comes {outcome : Except Fault Image}
    (comes : studio.Comes action outcome) :
    studio.act action =
      some
        (Gallery.Reply.ofOutcome outcome,
          { gallery := studio.gallery.add outcome
            functions := studio.functionsAfter action }) := by
  obtain ⟨command, named, commandComes⟩ := comes
  exact
    act_eq_some_iff.mpr
      ⟨command, _, named, Gallery.obey_of_comes commandComes, rfl⟩

theorem act_of_observer {command : Gallery.Command σ}
    (obeyed : studio.gallery.obey command = some (reply, studio.gallery)) :
    studio.act (.command command) = some (reply, studio) :=
  act_eq_some_iff.mpr ⟨command, studio.gallery, rfl, obeyed, rfl⟩

/-- An action comes to an image or a fault, or it only observes. -/
theorem comes_or_eq (acted : studio.act action = some (reply, after)) :
    (∃ outcome, studio.Comes action outcome) ∨ after = studio := by
  obtain ⟨command, gallery, named, obeyed, rfl⟩ := act_eq_some_iff.mp acted
  cases makes : command.makes with
  | true =>
      obtain ⟨outcome, comes⟩ := Gallery.exists_comes_of_obey makes obeyed
      exact Or.inl ⟨outcome, command, named, comes⟩
  | false =>
      obtain ⟨_, rfl⟩ := Gallery.eq_of_observer makes obeyed
      cases action with
      | command given =>
          exact Or.inr rfl
      | call number on =>
          -- A call applies a function, which is no observation.
          obtain ⟨function, _, rfl⟩ := Option.map_eq_some_iff.mp named
          cases makes

theorem images_act (acted : studio.act action = some (reply, after)) :
    after.gallery.images = studio.gallery.images ++ reply.made?.toList := by
  obtain ⟨command, gallery, _, obeyed, rfl⟩ := act_eq_some_iff.mp acted
  exact Gallery.images_obey obeyed

end

/-! ### Actions in order -/

/-- The images after a run are those before it, and then the ones that were
answered, in order. -/
theorem images_run (studio : Studio σ) (actions : List (Action σ)) :
    (studio.run actions).2.gallery.images =
      studio.gallery.images ++
        (studio.run actions).1.filterMap Gallery.Reply.made? := by
  induction actions generalizing studio with
  | nil =>
      exact (List.append_nil studio.gallery.images).symm
  | cons action rest inductionHypothesis =>
      cases acted : studio.act action with
      | none =>
          simp [run, acted]
      | some result =>
          obtain ⟨reply, after⟩ := result
          simp only [run, acted]
          rw [inductionHypothesis, images_act acted, List.append_assoc]
          cases made : reply.made? with
          | none =>
              rw [List.filterMap_cons_none made]
              rfl
          | some image =>
              rw [List.filterMap_cons_some made]
              rfl

theorem getElem?_images_run {studio : Studio σ} {number : Nat} {image : Image}
    (held : studio.gallery.images[number]? = some image)
    (actions : List (Action σ)) :
    (studio.run actions).2.gallery.images[number]? = some image := by
  obtain ⟨below, _⟩ := List.getElem?_eq_some_iff.mp held
  rw [images_run, List.getElem?_append_left below, held]

/-- A run in which no function is called by its number is one of the gallery
alone. -/
theorem run_map_command (studio : Studio σ)
    (commands : List (Gallery.Command σ)) :
    studio.run (commands.map .command) =
      ((studio.gallery.obeyAll commands).1,
        { studio with gallery := (studio.gallery.obeyAll commands).2 }) := by
  induction commands generalizing studio with
  | nil =>
      rfl
  | cons command rest inductionHypothesis =>
      cases obeyed : studio.gallery.obey command with
      | none =>
          simp [run, act, command?, Gallery.obeyAll, obeyed]
      | some result =>
          obtain ⟨reply, gallery⟩ := result
          simp [run, act, command?, Gallery.obeyAll, obeyed,
            inductionHypothesis, functionsAfter]

end Studio

/-- In every run, whichever images are used and whichever functions fault, the
images are those that were made, in order, and each keeps its number.  The next
action adds the image that it comes to, or adds none if it faults, or only
observes.  An image that is asked for its shape shows it, and comparing two images,
and counting all of them, goes by their shapes. -/
theorem images_of_every_run (functions : List (Transform σ Image))
    (actions : List (Studio.Action σ)) :
    let first : Studio σ := { gallery := Gallery.empty, functions }
    let replies := (first.run actions).1
    let studio := (first.run actions).2
    studio.gallery.images = replies.filterMap Gallery.Reply.made? ∧
    (∀ (later : List (Studio.Action σ)) (number : Nat) (image : Image),
      studio.gallery.images[number]? = some image →
        (studio.run later).2.gallery.images[number]? = some image) ∧
    (∀ (action : Studio.Action σ) (image : Image),
      studio.Comes action (.ok image) →
        ∃ after, studio.act action = some (.made image, after) ∧
          after.gallery.images = studio.gallery.images ++ [image] ∧
          after.gallery.distinct =
            if image.shape ∈ studio.gallery.shapes then studio.gallery.distinct
            else studio.gallery.distinct + 1) ∧
    (∀ (action : Studio.Action σ) (fault : Fault),
      studio.Comes action (.error fault) →
        ∃ after, studio.act action = some (.faulted fault, after) ∧
          after.gallery = studio.gallery) ∧
    (∀ (action : Studio.Action σ) (reply : Gallery.Reply) (after : Studio σ),
      studio.act action = some (reply, after) →
        (∃ outcome, studio.Comes action outcome) ∨ after = studio) ∧
    (∀ (on : Option Word) (image : Image), studio.gallery.Names on image →
      studio.act (.command (.shape on)) = some (.shape image, studio)) ∧
    (∀ (on : Option Word) (other : Word) (left right : Image),
      studio.gallery.Names on left →
        studio.gallery.Names (some other) right →
          ∃ answer,
            studio.act (.command (.equal on other)) =
              some (.equal answer, studio) ∧
            (answer = true ↔
              left.channels = right.channels ∧ left.height = right.height ∧
                left.width = right.width)) ∧
    studio.act (.command .distinct) =
      some (.distinct studio.gallery.shapes.toFinset.card, studio) ∧
    (∀ commands : List (Gallery.Command σ),
      first.run (commands.map .command) =
        ((Gallery.empty.obeyAll commands).1,
          { gallery := (Gallery.empty.obeyAll commands).2, functions })) := by
  intro first replies studio
  refine ⟨?_, ?_, ?_, ?_, ?_, ?_, ?_, ?_, ?_⟩
  · exact first.images_run actions
  · intro later number image held
    exact Studio.getElem?_images_run held later
  · intro action image comes
    exact
      ⟨_, Studio.act_of_comes comes, rfl,
        studio.gallery.distinct_push image⟩
  · intro action fault comes
    exact ⟨_, Studio.act_of_comes comes, rfl⟩
  · intro action reply after acted
    exact Studio.comes_or_eq acted
  · intro on image named
    apply Studio.act_of_observer
    simp only [Gallery.obey, Gallery.names_iff.mp named]
    rfl
  · intro on other left right named otherNamed
    refine ⟨left == right, ?_, ?_⟩
    · apply Studio.act_of_observer
      simp only [Gallery.obey, Gallery.names_iff.mp named,
        Gallery.names_iff.mp otherNamed]
      rfl
    · rw [beq_iff_eq, ← Image.shape_inj]
      simp only [Image.shape, Prod.mk.injEq]
  · apply Studio.act_of_observer
    rw [← Gallery.distinct_eq_card]
    rfl
  · intro commands
    exact first.run_map_command commands

/-- A function exchanges height and width once and then gets tired.  It is
called on the latest image, and again on the first. -/
theorem images_of_a_tiring_run :
    let exchanging : Transform Nat Image :=
      { state := 0
        respond := fun calls image =>
          (if calls = 0 then
              .ok (image.withShape image.channels image.width image.height)
            else .error (.raised "tired"),
            calls + 1) }
    let actions : List (Studio.Action Nat) :=
      [.command (.create 3 4 5), .call 0 none, .command (.withShape none 3 4 5),
        .call 0 (some 0)]
    let first : Studio Nat :=
      { gallery := Gallery.empty, functions := [exchanging] }
    let studio := (first.run actions).2
    let reached : Studio Nat :=
      { gallery := ⟨[⟨3, 4, 5⟩, ⟨3, 5, 4⟩, ⟨3, 4, 5⟩]⟩
        functions := [{ exchanging with state := 2 }] }
    let reshaping : Studio.Action Nat := .command (.withShape (some 0) 1 4 5)
    studio.gallery.images = reached.gallery.images ∧
      (studio.run [reshaping]).2.gallery.images[0]? = some ⟨3, 4, 5⟩ ∧
      (∃ after, studio.act reshaping = some (.made ⟨1, 4, 5⟩, after) ∧
        after.gallery.images = studio.gallery.images ++ [⟨1, 4, 5⟩] ∧
        after.gallery.distinct =
          if Image.shape ⟨1, 4, 5⟩ ∈ studio.gallery.shapes then
            studio.gallery.distinct
          else studio.gallery.distinct + 1) ∧
      (∃ after,
        studio.act (.call 0 none) = some (.faulted (.raised "tired"), after) ∧
        after.gallery = studio.gallery) ∧
      (studio.act (.command .all) =
          some (.all reached.gallery.images, reached) ∧
        ((∃ outcome, studio.Comes (.command .all) outcome) ∨
          reached = studio)) ∧
      studio.act (.command (.shape (some 1))) =
        some (.shape ⟨3, 5, 4⟩, studio) ∧
      (∃ answer,
        studio.act (.command (.equal (some 0) 1)) =
          some (.equal answer, studio) ∧
        (answer = true ↔ (3 : Word) = 3 ∧ (4 : Word) = 5 ∧ (5 : Word) = 4)) := by
  intro exchanging actions first studio reached reshaping
  obtain ⟨made, kept, adds, faults, observes, shown, compared, _, _⟩ :=
    images_of_every_run [exchanging] actions
  have firstHeld : studio.gallery.images[0]? = some ⟨3, 4, 5⟩ := rfl
  have firstNamed : studio.gallery.Names (some 0) ⟨3, 4, 5⟩ :=
    Gallery.Names.numbered firstHeld
  have secondNamed : studio.gallery.Names (some 1) ⟨3, 5, 4⟩ :=
    Gallery.Names.numbered rfl
  have latest :
      studio.gallery.images = [⟨3, 4, 5⟩, ⟨3, 5, 4⟩] ++ [⟨3, 4, 5⟩] :=
    rfl
  have comes : studio.Comes reshaping (.ok ⟨1, 4, 5⟩) :=
    ⟨_, rfl, Gallery.Comes.withShape firstNamed 1 4 5⟩
  have comesToFault : studio.Comes (.call 0 none) (.error (.raised "tired")) :=
    ⟨_, rfl, Gallery.Comes.apply (.latest latest) { exchanging with state := 2 }⟩
  exact
    ⟨made, kept [reshaping] 0 ⟨3, 4, 5⟩ firstHeld, adds reshaping _ comes,
      faults (.call 0 none) _ comesToFault,
      ⟨rfl, observes (.command .all) _ reached rfl⟩,
      shown (some 1) ⟨3, 5, 4⟩ secondNamed,
      compared (some 0) 1 ⟨3, 4, 5⟩ ⟨3, 5, 4⟩ firstNamed secondNamed⟩

end BlankImages
