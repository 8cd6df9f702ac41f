import RoutePaths.Proofs.Project.Output

/-!
# RoutePaths.Proofs.Source.Token

Who learns the token.  It is given to git and to nothing else: a run that resolves
its source and is oblivious from then on ends in the same way whatever the token,
with the same disk and the same reports, but for the URL in the call of git
(`sameButUrl_resolve`).  The command, the workflow step and resolving by itself are
such runs (`token_reaches_git_only`).
-/

namespace RoutePaths.Source

variable {α β : Type} {m : Machine} {source : String} {token : Option String}

/-! ## what git is told -/

/-- The calls of git when a source is resolved. -/
def gitCalls (m : Machine) (source : String) (token : Option String) : List Event :=
  if isUrl source then
    [.called ["git", "clone", "--depth", "1", cloneUrl source token, FilePath.ofNames m.scratch]
      timeLimit]
  else []

/-- Two outcomes of runs on a machine that differ in nothing but the URL that git is
given: the answers and the disks are the same, and so are the reports in front of
the call and behind it, none of which is another call. -/
structure SameButUrl (m : Machine) (source : String) (token₁ token₂ : Option String)
    (outcome₁ outcome₂ : α × Machine) : Prop where
  answer : outcome₁.1 = outcome₂.1
  disk : outcome₁.2.disk = outcome₂.2.disk
  events : ∃ front behind : List Event, (∀ e ∈ front ++ behind, e.isCall = false) ∧
    outcome₁.2.events = m.events ++ front ++ gitCalls m source token₁ ++ behind ∧
    outcome₂.2.events = m.events ++ front ++ gitCalls m source token₂ ++ behind

/-- A token stands right behind `https://`. -/
theorem cloneUrl_https (rest : String) {token : String} (hne : token ≠ "") :
    cloneUrl ("https://" ++ rest) (some token) = "https://" ++ token ++ "@" ++ rest := by
  have htoken : cloneUrl ("https://" ++ rest) (some token) =
      withToken ("https://" ++ rest) (some token) := by
    rw [cloneUrl]
    exact hne
  have hsource : ("https://" ++ rest).toList = "https://".toList ++ rest.toList :=
    String.toList_append
  have hdrop : ("https://".toList ++ rest.toList).drop 8 = rest.toList := rfl
  rw [htoken, withToken, hsource, if_pos (List.isPrefixOf_iff_prefix.mpr (List.prefix_append _ _)),
    hdrop, String.ofList_toList, Option.getD_some]

/-- Without a token, or with any other source, git is given the source. -/
theorem cloneUrl_eq_self (h : token.getD "" = "" ∨ ∀ rest, source ≠ "https://" ++ rest) :
    cloneUrl source token = source := by
  rw [cloneUrl.eq_def]
  split
  · rfl
  · rfl
  · next t hne =>
    rcases h with h | h
    · exact absurd h hne
    · rw [withToken, if_neg]
      intro hprefix
      obtain ⟨rest, hrest⟩ := List.isPrefixOf_iff_prefix.mp hprefix
      have htoList : (String.ofList rest).toList = rest := String.toList_ofList
      refine h (String.ofList rest) (String.toList_inj.mp ?_)
      rw [String.toList_append, htoList, hrest]

/-! ## runs -/

/-- A clone tells the token to git. -/
theorem clone_eq (m : Machine) (source : String) (token : Option String) :
    clone source token m = ((clone source none m).1,
      { (clone source none m).2 with
        events := m.events ++ [.logged ⟨.info, "Cloning " ++ source ++ " ...", none⟩] ++
          [.called ["git", "clone", "--depth", "1", cloneUrl source token,
            FilePath.ofNames m.scratch] timeLimit] }) := by
  obtain ⟨disk, outcome, scratch, events⟩ := m
  have hanswer : (clone source token ⟨disk, outcome, scratch, events⟩).1 =
      (clone source none ⟨disk, outcome, scratch, events⟩).1 := by cases outcome <;> rfl
  have hafter : (clone source token ⟨disk, outcome, scratch, events⟩).2 =
      { (clone source none ⟨disk, outcome, scratch, events⟩).2 with
        events := events ++ [.logged ⟨.info, "Cloning " ++ source ++ " ...", none⟩] ++
          [.called ["git", "clone", "--depth", "1", cloneUrl source token,
            FilePath.ofNames scratch] timeLimit] } := by cases outcome <;> rfl
  exact Prod.ext hanswer hafter

/-- Resolving a source tells the token to git. -/
theorem exists_resolve (m : Machine) (source : String) :
    ∃ (result : Except SourceError String) (after : Machine) (front : List Event),
      (∀ e ∈ front, e.isCall = false) ∧ ∀ token, resolve source token m =
        (result, { after with events := m.events ++ front ++ gitCalls m source token }) := by
  by_cases hurl : isUrl source
  · refine ⟨(clone source none m).1, (clone source none m).2,
      [.logged ⟨.info, "Cloning " ++ source ++ " ...", none⟩], by simp [Event.isCall],
      fun token => ?_⟩
    rw [resolve, if_pos hurl, gitCalls, if_pos hurl]
    exact clone_eq m source token
  · refine ⟨validate m.disk source, m, [], by simp, fun token => ?_⟩
    rw [gitCalls, if_neg hurl, resolve, if_neg hurl, List.append_nil, List.append_nil]
    rfl

/-- **Whoever is oblivious once the source is resolved** does not learn the token. -/
theorem sameButUrl_resolve {next : Except SourceError String → Step α}
    (hnext : ∀ result, Oblivious (next result)) (m : Machine) (source : String)
    (token₁ token₂ : Option String) :
    SameButUrl m source token₁ token₂ ((resolve source token₁ >>= next) m)
      ((resolve source token₂ >>= next) m) := by
  obtain ⟨result, after, front, hfront, hresolve⟩ := exists_resolve m source
  obtain ⟨new, hnew, hsame⟩ := hnext result after
  have hrun : ∀ token, (resolve source token >>= next) m = ((next result after).1,
      { (next result after).2 with
        events := m.events ++ front ++ gitCalls m source token ++ new }) := fun token => by
    calc (resolve source token >>= next) m
        = next (resolve source token m).1 (resolve source token m).2 := rfl
      _ = _ := by rw [hresolve, hsame]
  rw [hrun, hrun]
  refine ⟨rfl, rfl, front, new, fun e he => ?_, rfl, rfl⟩
  exact (List.mem_append.mp he).elim (hfront e) (hnew e)

/-- Cleaning up takes a folder away, whatever was reported. -/
theorem oblivious_cleanUp (source : String) : Oblivious (cleanUp source) := by
  rw [cleanUp]
  split
  · exact .of_silent fun _ _ => rfl
  · exact .of_silent fun _ _ => rfl

/-- Cleaning up behind a run asks nothing about the URL. -/
theorem oblivious_followedBy {ε : Type} {run : Run ε α} (hrun : Oblivious run.run)
    (source : String) : Oblivious (run.followedBy (cleanUp source)).run :=
  hrun.bind fun _ => (oblivious_cleanUp source).bind fun _ => .pure _

/-- Resolving a source and cleaning up at once. -/
def visit (source : String) (token : Option String) : Step (Except SourceError String) :=
  Run.followedBy (.ofStep (resolve source token)) (cleanUp source)

end RoutePaths.Source

namespace RoutePaths

open Source (SameButUrl cloneUrl)

/-! ## the command -/

namespace CommandLine

/-- The token plays no part in it. -/
theorem proceed_token (screen : Console.Screen) (o : Options) (token : Option String) :
    proceed screen { o with token } = proceed screen o := funext fun result => by
  cases result <;> rfl

/-- What the command does with a resolved source asks nothing about the URL. -/
theorem oblivious_proceed (screen : Console.Screen) (o : Options)
    (result : Except Source.SourceError String) :
    Oblivious (proceed screen o result).run := by
  cases result with
  | error e =>
    have hplain : Plain True (proceed screen o (.error e)).run :=
      (plain_say o screen _).run_bind fun _ => Plain.run_pure _
    exact hplain.oblivious
  | ok root =>
    exact Source.oblivious_followedBy (plain_scanAndWrite trivial screen o root).oblivious _

/-- Two tokens make one run of the command, but for the URL that is cloned. -/
theorem sameButUrl_execute (m : Machine) (screen : Console.Screen) (o : Options)
    (token₁ token₂ : Option String) :
    SameButUrl m o.source token₁ token₂ ((execute screen { o with token := token₁ }).run m)
      ((execute screen { o with token := token₂ }).run m) := by
  rw [execute_eq, execute_eq, proceed_token, proceed_token]
  exact Source.sameButUrl_resolve (oblivious_proceed screen o) m o.source token₁ token₂

end CommandLine

/-! ## the workflow step -/

namespace Action

variable {env env' : Environment}

/-- Environments that differ in nothing but the token. -/
def SameButToken (env env' : Environment) : Prop :=
  ∀ name, name ≠ "INPUT_TOKEN" → env.get? name = env'.get? name

/-- The inputs of such environments differ in the token only. -/
theorem SameButToken.exists_token (h : SameButToken env env') :
    ∃ token, Inputs.ofEnvironment env' = { Inputs.ofEnvironment env with token } := by
  refine ⟨(Inputs.ofEnvironment env').token, ?_⟩
  simp only [Inputs.ofEnvironment, isOn, input, h "INPUT_SOURCE" (by decide),
    h "INPUT_OUTPUT" (by decide), h "INPUT_FORMAT" (by decide), h "INPUT_BASE_PREFIX" (by decide),
    h "INPUT_FAIL_ON_EMPTY" (by decide)]

/-- The runner is told the same. -/
theorem SameButToken.appendTo_eq (h : SameButToken env env') {name : String}
    (hname : name ≠ "INPUT_TOKEN") (text : String) :
    appendTo env' name text = appendTo env name text := by
  rw [appendTo, appendTo, h name hname]

/-- The action goes on in the same way. -/
theorem SameButToken.proceed_eq (h : SameButToken env env') (inputs : Inputs)
    (token : Option String) : proceed env' { inputs with token } = proceed env inputs := by
  have hout : ∀ name value, setOutput env' name value = setOutput env name value := fun _ _ =>
    h.appendTo_eq (by decide) _
  have hsummary : ∀ text, summarize env' text = summarize env text := fun _ =>
    h.appendTo_eq (by decide) _
  have hwrite : ∀ root,
      scanAndWrite env' { inputs with token } root = scanAndWrite env inputs root := by
    intro root
    simp only [scanAndWrite, hout, hsummary]
    rfl
  funext result
  cases result with
  | error e => rfl
  | ok root => simp only [proceed, hwrite]

/-- What the action does with a resolved source asks nothing about the URL. -/
theorem oblivious_proceed (env : Environment) (inputs : Inputs)
    (result : Except Source.SourceError String) : Oblivious (proceed env inputs result).run := by
  cases result with
  | error e =>
    have hplain : Plain True (proceed env inputs (.error e)).run :=
      (plain_say _).run_bind fun _ => Plain.run_pure _
    exact hplain.oblivious
  | ok root =>
    have hwrite := (plain_scanAndWrite trivial env inputs root).oblivious
    exact (Oblivious.report rfl).bind fun _ => Source.oblivious_followedBy hwrite _

/-- Two tokens make one run of the action, but for the URL that is cloned. -/
theorem sameButUrl_run (m : Machine) (h : SameButToken env env') :
    SameButUrl m (Inputs.ofEnvironment env).source (Inputs.ofEnvironment env).token
      (Inputs.ofEnvironment env').token ((run env).run m) ((run env').run m) := by
  obtain ⟨token, htoken⟩ := h.exists_token
  rw [run_eq env, run_eq env', htoken]
  generalize Inputs.ofEnvironment env = inputs
  rw [h.proceed_eq]
  exact Source.sameButUrl_resolve (oblivious_proceed env inputs) m inputs.source inputs.token token

end Action

/-! ## who learns the token -/

/-- **The token reaches git and nothing else.**  With whatever tokens the command is
run, the workflow step is run, or a source is resolved and cleaned up at once, they
end with the same answer or failure, the same disk and the same reports, but for the
URL that git is given: that is the source with the token behind `https://` if the
source begins so and there is a token, and else the source. -/
theorem token_reaches_git_only (m : Machine) :
    (∀ screen (o : CommandLine.Options) token₁ token₂, SameButUrl m o.source token₁ token₂
      ((CommandLine.execute screen { o with token := token₁ }).run m)
      ((CommandLine.execute screen { o with token := token₂ }).run m)) ∧
    (∀ env env' : Action.Environment, Action.SameButToken env env' →
      SameButUrl m (Action.Inputs.ofEnvironment env).source (Action.Inputs.ofEnvironment env).token
        (Action.Inputs.ofEnvironment env').token
        ((Action.run env).run m) ((Action.run env').run m)) ∧
    (∀ source token₁ token₂, SameButUrl m source token₁ token₂ (Source.visit source token₁ m)
      (Source.visit source token₂ m)) ∧
    (∀ rest token, token ≠ "" →
      cloneUrl ("https://" ++ rest) (some token) = "https://" ++ token ++ "@" ++ rest) ∧
    ∀ source token, token.getD "" = "" ∨ (∀ rest, source ≠ "https://" ++ rest) →
      cloneUrl source token = source := by
  refine ⟨CommandLine.sameButUrl_execute m, fun env env' h => Action.sameButUrl_run m h,
    fun source token₁ token₂ => ?_, fun rest token => Source.cloneUrl_https rest,
    fun source token => Source.cloneUrl_eq_self⟩
  have hvisit : ∀ token, Source.visit source token = Source.resolve source token >>= fun result =>
      Source.cleanUp source >>= fun _ => pure result := fun _ => rfl
  rw [hvisit, hvisit]
  exact Source.sameButUrl_resolve (fun result =>
    (Source.oblivious_cleanUp source).bind fun _ => .pure result) m source token₁ token₂

/-- A private repository, and git is missing; one environment has a token with a line
feed behind it, the other has none. -/
theorem token_reaches_git_only_private :
    let m : Machine := ⟨⟨.folder [("tmp", .folder [])], []⟩, .noGit, ["tmp", "clone"], []⟩
    let env : Action.Environment :=
      [("INPUT_TOKEN", "s3cret\n"), ("INPUT_SOURCE", "https://example.com/app.git")]
    let env' : Action.Environment := [("INPUT_SOURCE", "https://example.com/app.git")]
    Action.SameButToken env env' ∧
      SameButUrl m (Action.Inputs.ofEnvironment env).source (Action.Inputs.ofEnvironment env).token
        (Action.Inputs.ofEnvironment env').token ((Action.run env).run m)
        ((Action.run env').run m) ∧
      "s3cret" ≠ "" ∧
      cloneUrl ("https://" ++ "example.com/app.git") (some "s3cret") =
        "https://" ++ "s3cret" ++ "@" ++ "example.com/app.git" ∧
      (none : Option String).getD "" = "" ∧
      cloneUrl "https://example.com/app.git" none = "https://example.com/app.git" := by
  intro m env env'
  have henv : Action.SameButToken env env' := fun name hname => by
    simp [env, env', Ledger.get?, Ne.symm hname]
  obtain ⟨-, haction, -, htoken, hself⟩ := token_reaches_git_only m
  exact ⟨henv, haction env env' henv, by decide, htoken _ _ (by decide), rfl, hself _ _ (.inl rfl)⟩

/-- **A token with blanks around it**: the workflow step gives git the token without
them. -/
theorem trimmed_token_in_url :
    let m : Machine := ⟨⟨.folder [("tmp", .folder [])], []⟩, .noGit, ["tmp", "clone"], []⟩
    let env : Action.Environment :=
      [("INPUT_TOKEN", "s3cret\n"), ("INPUT_SOURCE", "https://example.com/app.git")]
    ((Action.run env).run m).2.events.filter Event.isCall =
        [.called ["git", "clone", "--depth", "1",
          "https://s3cret@example.com/app.git", "/tmp/clone"] 120] ∧
      "https://s3cret@example.com/app.git" ≠
        "https://" ++ "s3cret\n" ++ "@" ++ "example.com/app.git" := by
  decide +kernel

end RoutePaths
