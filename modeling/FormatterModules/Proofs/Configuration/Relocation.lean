import FormatterModules.Proofs.Configuration.History
import FormatterModules.Proofs.Configuration.Visibility
import FormatterModules.Proofs.Fetcher.Runs
import FormatterModules.Proofs.Preferences.Merging
import FormatterModules.Proofs.Repository.Relocation

namespace FormatterModules

open LoaderCache

def SameBytes (files : FileTree) (ps : List Path) (others : FileTree) (qs : List Path) : Prop :=
  List.Forall₂ (fun p q => ∃ bytes, files.read p = .ok bytes ∧ others.read q = .ok bytes) ps qs

namespace Preferences

theorem parse_parallel (origin other text : String) :
    Parallel Eq (parse origin text) (parse other text) := by
  have hsame : ∀ p, parse origin text = .ok p ↔ parse other text = .ok p := by
    intro p
    rw [parse_eq_ok_iff, parse_eq_ok_iff]
  cases hparse : parse origin text with
  | ok p =>
    rw [(hsame p).mp hparse]
    exact .ok rfl
  | error e =>
    cases hother : parse other text with
    | ok p => cases hparse.symm.trans ((hsame p).mpr hother)
    | error e' => exact .error e e'

theorem readFiles_parallel {files others : FileTree} {ps qs : List Path}
    (h : SameBytes files ps others qs) :
    Parallel Eq (readFiles files ps) (readFiles others qs) := by
  suffices honto : ∀ p, Parallel Eq (readFilesOnto files p ps) (readFilesOnto others p qs) by
    exact honto empty
  induction h with
  | nil => exact fun p => .ok rfl
  | @cons path path' ps qs hread _ ih =>
    intro p
    obtain ⟨bytes, hpath, hpath'⟩ := hread
    have hparsed := parse_parallel path.text path'.text (Bytes.decodeUtf8OrLatin1 bytes)
    unfold readFilesOnto
    rw [load_of_read hpath, load_of_read hpath']
    generalize parse path.text _ = q at hparsed
    generalize parse path'.text _ = q' at hparsed
    cases hparsed with
    | error e e' => exact .error e e'
    | ok heq =>
      subst heq
      exact ih _

end Preferences

namespace EngineState

/-- The states are equal, hash the same, and have the same fingerprint and the same classes. -/
structure Same (s t : EngineState) : Prop where
  equal : (s == t) = true
  significant : s.significant = t.significant
  fingerprint : s.fingerprint = t.fingerprint
  classNames : s.loader.classNames = t.loader.classNames
  loadable : ∀ name, (s.lookup name).toBool = (t.lookup name).toBool

theorem same_of_copies (version : Version) (moduleUrl? : Option Url) (preferences : Preferences)
    {artifacts others : ArtifactSet} (h : artifacts.Copies others) {k l : ModuleLoader}
    (hloader : k.OffersSame l) :
    Same ⟨version, moduleUrl?, artifacts, preferences, k⟩
      ⟨version, moduleUrl?, others, preferences, l⟩ := by
  have hset := ArtifactSet.identitySet_inj.mpr h.identities_eq
  have halike : Alike ⟨version, moduleUrl?, artifacts, preferences, k⟩
      ⟨version, moduleUrl?, others, preferences, l⟩ := ⟨rfl, rfl, hset, rfl⟩
  refine ⟨halike.beq, ?_, ?_, hloader.classNames, hloader.toBool_lookup⟩
  · rw [significant, significant, h.identities_eq]
  · rw [fingerprint, fingerprint, toJson_eq_iff.mpr halike]

end EngineState

namespace Fetcher

def IsDownload (f : Fetcher) (files : FileTree) (url : Url) (p : Path) : Prop :=
  files.place p = .ok (f.home files ++ [fileName url])

/-- The text that a request comes to, unless it is stopped or not answered well. -/
def received? (f : Fetcher) (url : Url) (env : Environment) : Option String :=
  if env.isStopped f.flag? then none else (bodyOf url (env.network.get url).1).toOption

def Stores (f : Fetcher) (url : Url) (env : Environment) : Prop :=
  ∀ body, f.received? url env = some body →
    (f.store env.files (f.target url) body).1 = .ok ()

theorem fetch_of_stores {f : Fetcher} {url : Url} (hurl : IsRemote url) {env : Environment}
    (hstores : f.Stores url env) :
    (f.received? url env = none → ∃ e, (f.fetch url env).1 = .error e) ∧
      ∀ body, f.received? url env = some body →
        (f.fetch url env).1 = .ok (f.target url) ∧
        env.files.Replaces (f.fetch url env).2.files (f.target url)
          (f.home env.files ++ [fileName url]) (Bytes.ofText body) := by
  have hends := f.download_ends url env
  rw [← fetch_remote hurl] at hends
  generalize f.fetch url env = result at hends
  unfold Stores received? at hstores
  unfold received?
  cases hends with
  | stopped hstopped =>
    rw [if_pos hstopped]
    exact ⟨fun _ => ⟨_, rfl⟩, fun _ h => (nomatch h)⟩
  | refused hruns hrefused =>
    rw [if_neg (by simp [hruns]), hrefused]
    exact ⟨fun _ => ⟨_, rfl⟩, fun _ h => (nomatch h)⟩
  | @lost body _ _ _ hruns hreceived hfailed _ =>
    rw [if_neg (by simp [hruns]), hreceived] at hstores
    rw [hstores body rfl] at hfailed
    cases hfailed
  | stored hruns hreceived hreplaces =>
    rw [if_neg (by simp [hruns]), hreceived]
    refine ⟨fun h => (nomatch h), fun body h => ?_⟩
    obtain rfl := Option.some.inj h
    exact ⟨rfl, hreplaces⟩

end Fetcher

/-- Where a configuration finds what it reads, and where it keeps what it downloads. -/
structure Site where
  repository : Repository
  cacheDirectory : Path
  preferenceFiles : List Path

namespace Site

def fetcher (site : Site) (flag? : Option StopFlag) : Fetcher := ⟨site.cacheDirectory, flag?⟩

/-- The same lies at both sites: the same files below the roots, and the same preferences. -/
structure Copied (site : Site) (env : Environment) (site' : Site) (env' : Environment) : Prop where
  repository : site.repository.Copied env.files site'.repository env'.files
  preferences : SameBytes env.files site.preferenceFiles env'.files site'.preferenceFiles
  stopped : ∀ flag?, env.isStopped flag? = env'.isStopped flag?

/-- A URL has the same answer at both sites, and what it comes to can be stored. The file it is stored
in is a preference file at both sites, or at neither. -/
structure SameDownload (flag? : Option StopFlag) (site : Site) (env : Environment) (site' : Site)
    (env' : Environment) (url : Url) : Prop where
  remote : Fetcher.IsRemote url
  answer : (env.network.get url).1 = (env'.network.get url).1
  stores : (site.fetcher flag?).Stores url env
  stores' : (site'.fetcher flag?).Stores url env'
  preferences : List.Forall₂
    (fun p q => (site.fetcher flag?).IsDownload env.files url p ↔
      (site'.fetcher flag?).IsDownload env'.files url q)
    site.preferenceFiles site'.preferenceFiles

variable {site site' : Site} {env env' : Environment} {flag? : Option StopFlag} {url : Url}

theorem SameDownload.sameBytes {after after' : FileTree} {target target' : Path}
    {content : ByteArray} {ps qs : List Path}
    (hdownload : List.Forall₂ (fun p q => (site.fetcher flag?).IsDownload env.files url p ↔
      (site'.fetcher flag?).IsDownload env'.files url q) ps qs)
    (h : env.files.Replaces after target
      ((site.fetcher flag?).home env.files ++ [Fetcher.fileName url]) content)
    (h' : env'.files.Replaces after' target'
      ((site'.fetcher flag?).home env'.files ++ [Fetcher.fileName url]) content)
    (hsame : SameBytes env.files ps env'.files qs) : SameBytes after ps after' qs := by
  induction hsame with
  | nil => exact .nil
  | @cons p q ps qs hread _ ih =>
    obtain ⟨bytes, hp, hq⟩ := hread
    cases hdownload with
    | cons hiff hrest =>
      refine .cons ?_ (ih hrest)
      have hafter := h.read_of_read hp
      have hafter' := h'.read_of_read hq
      unfold Fetcher.IsDownload at hiff
      by_cases hloaded : env.files.place p =
          .ok ((site.fetcher flag?).home env.files ++ [Fetcher.fileName url])
      · rw [if_pos hloaded] at hafter
        rw [if_pos (hiff.mp hloaded)] at hafter'
        exact ⟨content, hafter, hafter'⟩
      · rw [if_neg hloaded] at hafter
        rw [if_neg fun h => hloaded (hiff.mpr h)] at hafter'
        exact ⟨bytes, hafter, hafter'⟩

def FindSame (site site' : Site) (found found' : Except Failure (OrderedSet Path) × Environment) :
    Prop :=
  Parallel (fun ps qs =>
    List.Forall₂ (fun p q => ArtifactSet.SameFile found.2.files p found'.2.files q)
      ps.toList qs.toList ∧
    SameBytes found.2.files site.preferenceFiles found'.2.files site'.preferenceFiles)
    found.1 found'.1

theorem Copied.provision (h : Copied site env site' env') (coordinates : OrderedSet Coordinate) :
    FindSame site site' ((Provisioner.ofRepository site.repository flag?).provision coordinates env)
      ((Provisioner.ofRepository site'.repository flag?).provision coordinates env') := by
  obtain ⟨hparallel, henv, henv'⟩ := h.repository.provision (h.stopped flag?) coordinates
  unfold FindSame
  rw [henv, henv']
  exact hparallel.mono fun ps qs hmoved => ⟨hmoved.sameFiles h.repository, h.preferences⟩

theorem Copied.fetch (h : Copied site env site' env')
    (hd : SameDownload flag? site env site' env' url)
    {found found' : Except Failure Path × Environment}
    (hfound : (site.fetcher flag?).fetch url env = found)
    (hfound' : (site'.fetcher flag?).fetch url env' = found') :
    FindSame site site' (found.1.map .singleton, found.2) (found'.1.map .singleton, found'.2) := by
  have hreceived : (site.fetcher flag?).received? url env =
      (site'.fetcher flag?).received? url env' := by
    unfold Fetcher.received? Site.fetcher
    dsimp only
    rw [hd.answer, h.stopped flag?]
  obtain ⟨hnone, hsome⟩ := Fetcher.fetch_of_stores hd.remote hd.stores
  obtain ⟨hnone', hsome'⟩ := Fetcher.fetch_of_stores hd.remote hd.stores'
  rw [hfound] at hnone hsome
  rw [hfound', ← hreceived] at hnone' hsome'
  unfold FindSame
  cases htext : (site.fetcher flag?).received? url env with
  | none =>
    obtain ⟨e, he⟩ := hnone htext
    obtain ⟨e', he'⟩ := hnone' htext
    rw [he, he']
    exact .error e e'
  | some body =>
    obtain ⟨hok, hreplaces⟩ := hsome body htext
    obtain ⟨hok', hreplaces'⟩ := hsome' body htext
    rw [hok, hok']
    refine .ok ⟨.cons ⟨?_, ?_⟩ .nil, SameDownload.sameBytes hd.preferences hreplaces hreplaces'
      h.preferences⟩
    · have hname := Fetcher.isEntryName_fileName url
      rw [Fetcher.target, Fetcher.target, Path.lastName_joinText _ hname,
        Path.lastName_joinText _ hname]
    · refine FileTree.readText_of_read ?_
      rw [hreplaces.read, hreplaces'.read]

theorem FindSame.ofLocations {ps qs : OrderedSet Path} {after after' : Environment}
    (h : FindSame site site' (.ok ps, after) (.ok qs, after')) :
    ps.isEmpty = qs.isEmpty ∧
      Parallel ArtifactSet.Copies (ArtifactSet.ofLocations after.files ps)
        (ArtifactSet.ofLocations after'.files qs) ∧
      SameBytes after.files site.preferenceFiles after'.files site'.preferenceFiles := by
  cases h with
  | ok hsame =>
    obtain ⟨hfiles, hpreferences⟩ := hsame
    refine ⟨?_, ArtifactSet.ofLocations_parallel hfiles, hpreferences⟩
    rw [OrderedSet.isEmpty, OrderedSet.isEmpty, Bool.eq_iff_iff, List.isEmpty_iff_length_eq_zero,
      List.isEmpty_iff_length_eq_zero, hfiles.length_eq]

end Site

namespace Configuration

def relocate (c : Configuration) (flag? : Option StopFlag) (site : Site) : Configuration :=
  { c with
    provisioner := .ofRepository site.repository flag?
    fetcher := site.fetcher c.fetcher.flag?
    preferenceFiles := site.preferenceFiles }

variable (c : Configuration) (flag? : Option StopFlag) {site site' : Site} {env env' : Environment}

theorem locate_relocate (h : Site.Copied site env site' env')
    (hdownload : ∀ url, c.moduleUrl? = some url →
      Site.SameDownload c.fetcher.flag? site env site' env' url) :
    Site.FindSame site site' ((c.relocate flag? site).locate env)
      ((c.relocate flag? site').locate env') := by
  have hurls : ∀ s, (c.relocate flag? s).moduleUrl? = c.moduleUrl? := fun _ => rfl
  have hdependencies : ∀ s, (c.relocate flag? s).dependency? = c.dependency? := fun _ => rfl
  cases hurl : c.moduleUrl? with
  | some url =>
    rw [locate_moduleUrl ((hurls site).trans hurl), locate_moduleUrl ((hurls site').trans hurl)]
    exact h.fetch (hdownload url hurl) rfl rfl
  | none =>
    cases hdependency : c.dependency? with
    | some d =>
      rw [locate_dependency ((hurls site).trans hurl) ((hdependencies site).trans hdependency),
        locate_dependency ((hurls site').trans hurl) ((hdependencies site').trans hdependency)]
      exact h.provision (.singleton d)
    | none =>
      rw [locate_version ((hurls site).trans hurl) ((hdependencies site).trans hdependency),
        locate_version ((hurls site').trans hurl) ((hdependencies site').trans hdependency)]
      have hexpand : ∀ s, (c.relocate flag? s).defaults.expand (c.relocate flag? s).version =
          c.defaults.expand c.version := fun _ => rfl
      rw [hexpand, hexpand]
      cases c.defaults.expand c.version with
      | error e => exact .error e e
      | ok coordinates => exact h.provision (.ofList coordinates)

theorem artifacts_relocate (h : Site.Copied site env site' env')
    (hdownload : ∀ url, c.moduleUrl? = some url →
      Site.SameDownload c.fetcher.flag? site env site' env' url) :
    let read := (c.relocate flag? site).artifacts env
    let read' := (c.relocate flag? site').artifacts env'
    Parallel (fun a b => a.Copies b ∧
      SameBytes read.2.files site.preferenceFiles read'.2.files site'.preferenceFiles)
      read.1 read'.1 := by
  have hfound := c.locate_relocate flag? h hdownload
  intro read read'
  simp only [read, read', artifacts_eq]
  generalize (c.relocate flag? site).locate env = found at hfound
  generalize (c.relocate flag? site').locate env' = found' at hfound
  obtain ⟨places, after⟩ := found
  obtain ⟨places', after'⟩ := found'
  cases places with
  | error e =>
    cases places' with
    | error e' => exact .error e e'
    | ok qs => cases hfound
  | ok ps =>
    cases places' with
    | error e' => cases hfound
    | ok qs =>
      obtain ⟨hempty, hartifacts, hpreferences⟩ := hfound.ofLocations
      dsimp only
      rw [hempty]
      by_cases hnone : qs.isEmpty = true
      · rw [if_pos hnone, if_pos hnone]
        exact .error _ _
      · rw [if_neg hnone, if_neg hnone]
        exact hartifacts.mono fun a b hab => ⟨hab, hpreferences⟩

theorem resolve_relocate (h : Site.Copied site env site' env')
    (hdownload : ∀ url, c.moduleUrl? = some url →
      Site.SameDownload c.fetcher.flag? site env site' env' url) {cache other : LoaderCache}
    (hloaders : ∀ artifacts copies, ((c.relocate flag? site).artifacts env).1 = .ok artifacts →
      artifacts.Copies copies →
      Parallel ModuleLoader.OffersSame (cache.obtain artifacts c.shared).1
        (other.obtain copies c.shared).1) :
    Parallel EngineState.Same ((c.relocate flag? site).resolve cache env).1
      ((c.relocate flag? site').resolve other env').1 := by
  have hread := c.artifacts_relocate flag? h hdownload
  dsimp only at hread
  unfold resolve
  rcases hout : (c.relocate flag? site).artifacts env with ⟨result, after⟩
  rcases hout' : (c.relocate flag? site').artifacts env' with ⟨result', after'⟩
  rw [hout, hout'] at hread
  dsimp only at hread
  cases hread with
  | error e e' => exact .error e e'
  | @ok artifacts copies hsame =>
    obtain ⟨hcopies, hpreferences⟩ := hsame
    have hoffer := hloaders artifacts copies (congrArg Prod.fst hout) hcopies
    have hload := Preferences.readFiles_parallel hpreferences
    unfold relocate
    dsimp only
    generalize cache.obtain artifacts c.shared = answer at hoffer ⊢
    generalize other.obtain copies c.shared = answer' at hoffer ⊢
    obtain ⟨loader, cache'⟩ := answer
    obtain ⟨loader', other'⟩ := answer'
    cases hoffer with
    | error e e' => exact .error e e'
    | ok hoffer =>
      dsimp only
      generalize Preferences.readFiles after.files site.preferenceFiles = p at hload
      generalize Preferences.readFiles after'.files site'.preferenceFiles = p' at hload
      cases hload with
      | error e e' => exact .error e e'
      | ok heq =>
        subst heq
        exact .ok (EngineState.same_of_copies _ _ _ hcopies hoffer)

theorem resolve_cache {c : Configuration} {cache : LoaderCache} {env : Environment}
    {artifacts : ArtifactSet} (h : (c.artifacts env).1 = .ok artifacts) :
    (c.resolve cache env).2.1 = (cache.obtain artifacts c.shared).2 := by
  unfold resolve
  rcases hread : c.artifacts env with ⟨read, after⟩
  rw [hread] at h
  obtain rfl : read = .ok artifacts := h
  dsimp only
  rcases cache.obtain artifacts c.shared with ⟨loader, cache'⟩
  cases loader with
  | error e => rfl
  | ok l => cases Preferences.readFiles after.files c.preferenceFiles <;> rfl

end Configuration

/-- A configuration comes to the same at two sites with the same repository and preferences, if it
is stopped at both or at neither, and downloads the same at both. One cache may serve both, one after
the other, or each has a cache of its own history. -/
theorem same_at_both_sites (c : Configuration) (flag? : Option StopFlag) (site site' : Site)
    (env env' : Environment) (h : Site.Copied site env site' env')
    (hdownload : ∀ url, c.moduleUrl? = some url →
      Site.SameDownload c.fetcher.flag? site env site' env' url) :
    let here := c.relocate flag? site
    let there := c.relocate flag? site'
    (∀ cache : LoaderCache,
      Parallel EngineState.Same (here.resolve cache env).1 (there.resolve cache env').1 ∧
      Parallel EngineState.Same (here.resolve cache env).1
        (there.resolve (here.resolve cache env).2.1 env').1) ∧
    ∀ (engines : EngineTable) (history others : List Request),
      (∀ artifacts, (here.artifacts env).1 = .ok artifacts →
        CollisionFree (requestedTexts (⟨artifacts, c.shared⟩ :: history ++ others))) →
      Parallel EngineState.Same (here.resolve ((ofEngines engines).after history) env).1
        (there.resolve ((ofEngines engines).after others) env').1 := by
  intro here there
  have hequal : ∀ {x y : Except Failure ModuleLoader},
      Parallel Eq x y → Parallel ModuleLoader.OffersSame x y := by
    intro x y hxy
    exact hxy.mono fun k l hkl => hkl ▸ .refl k
  refine ⟨fun cache => ⟨?_, ?_⟩, fun engines history others hc => ?_⟩
  · refine c.resolve_relocate flag? h hdownload fun artifacts copies _ hcopies => ?_
    exact hequal (cache.obtain_parallel hcopies c.shared)
  · refine c.resolve_relocate flag? h hdownload fun artifacts copies hread hcopies => ?_
    rw [Configuration.resolve_cache hread]
    exact hequal (cache.obtain_again_parallel hcopies c.shared)
  · refine c.resolve_relocate flag? h hdownload fun artifacts copies hread hcopies => ?_
    exact (recorded_after engines history).obtain_parallel (recorded_after engines others) hcopies
      (hc artifacts hread)

open Repository FormatterModules.Configuration

def siteFiles (directory preferences : String) : FileTree where
  workingDirectory := []
  nodes := .ofList
    [([directory], .directory), ([directory, "g"], .directory), ([directory, "g", "a"], .directory),
      ([directory, "g", "a", "1"], .directory),
      ([directory, "g", "a", "1", "a-1.toml"], .file (Bytes.ofText indentManifest)),
      ([preferences], .file (Bytes.ofText "k=1"))]

def siteEnvironment (files : FileTree) : Environment :=
  { Environment.ofFiles files ⟨"/tmp"⟩ with
    network :=
      { isOnline := true
        allowsEncryption := true
        responses := .ofList
          [((Fetcher.secureUrlOf "m").href,
            { status := 200, body := .ok (Bytes.ofText indentManifest) })]
        log := [] } }

def siteAt (root : Path) (cacheDirectory preferences : String) : Site :=
  ⟨⟨root⟩, ⟨cacheDirectory⟩, [⟨preferences⟩]⟩

def stateAt (c : Configuration) (site : Site) (files : FileTree) : Except Failure EngineState :=
  ((c.relocate none site).resolve (.ofEngines .builtins) (siteEnvironment files)).1

def downloadConfiguration : Configuration :=
  { pairConfiguration with moduleUrl? := some (Fetcher.secureUrlOf "m") }

theorem locate_of_collects {site : Site} {files : FileTree} {out : Except Failure Collection}
    (h : site.repository.Collects files [firstOfPair] .start out) :
    (pairConfiguration.relocate none site).locate (siteEnvironment files) =
      (out.map fun s => .union .empty s.found, siteEnvironment files) := by
  have hresolve : Provisioner.resolveAll site.repository files .empty [firstOfPair] =
      out.map fun s => .union .empty s.found := by
    rw [Provisioner.resolveAll, h.closure_eq]
    cases out <;> rfl
  have hexpand : (pairConfiguration.relocate none site).defaults.expand
      (pairConfiguration.relocate none site).version = .ok [firstOfPair] := expand_pair
  rw [locate_version rfl rfl, hexpand, ← hresolve]
  rfl

theorem manifest_siteFiles : manifest ⟨⟨"r"⟩⟩ (siteFiles "r" "p") firstOfPair =
    .ok ⟨⟨"", "", "", []⟩, [⟨"C", "indent", ["format"]⟩]⟩ := by
  decide +kernel

theorem stateAt_siteFiles :
    (stateAt pairConfiguration (siteAt ⟨"r"⟩ "c" "p") (siteFiles "r" "p")).toBool = true := by
  have hcollects : Collects (siteAt ⟨"r"⟩ "c" "p").repository (siteFiles "r" "p") [firstOfPair]
      .start _ :=
    .enter List.not_mem_nil manifest_siteFiles .done .done
  rw [stateAt, resolve, artifacts_eq, locate_of_collects hcollects]
  decide +kernel

theorem node?_siteFiles {directory preferences : String} (h : directory ≠ preferences)
    (names : List String) :
    (siteFiles directory preferences).node? (directory :: names) =
      (siteFiles "r" "p").node? ("r" :: names) := by
  simp only [siteFiles, FileTree.node?, List.isEmpty_cons, OrderedMap.ofList, List.foldl_cons,
    List.foldl_nil, OrderedMap.get?_insert, OrderedMap.get?_empty, List.cons.injEq, true_and]
  simp [h]

theorem mem_of_node?_siteFiles {names : List String}
    (h : (siteFiles "r" "p").node? ("r" :: names) ≠ none) :
    names ∈ [[], ["g"], ["g", "a"], ["g", "a", "1"], ["g", "a", "1", "a-1.toml"]] := by
  simp only [siteFiles, FileTree.node?, List.isEmpty_cons, OrderedMap.ofList, List.foldl_cons,
    List.foldl_nil, OrderedMap.get?_insert, OrderedMap.get?_empty, List.cons.injEq, true_and] at h
  simp only [List.mem_cons, List.not_mem_nil, or_false]
  by_contra hnames
  simp only [not_or] at hnames
  simp [hnames] at h

theorem copied_siteFiles : Site.Copied (siteAt ⟨"r"⟩ "c" "p") (siteEnvironment (siteFiles "r" "p"))
    (siteAt ⟨"s"⟩ "d" "q") (siteEnvironment (siteFiles "s" "q")) where
  repository := by
    have hshort : ∀ names ∈ [[], ["g"], ["g", "a"], ["g", "a", "1"], ["g", "a", "1", "a-1.toml"]],
        ((Path.mk "r").joinNames names).text.utf8ByteSize ≤ FileTree.pathLimit ∧
          ((Path.mk "s").joinNames names).text.utf8ByteSize ≤ FileTree.pathLimit := by
      decide +kernel
    have hroot : (siteFiles "r" "p").place ⟨"r"⟩ = .ok ["r"] := by decide +kernel
    have hroot' : (siteFiles "s" "q").place ⟨"s"⟩ = .ok ["s"] := by decide +kernel
    exact copied_of_nodes hroot hroot'
      (fun names => (node?_siteFiles (by decide) names).symm)
      fun names hnames => hshort names (mem_of_node?_siteFiles hnames)
  preferences := .cons ⟨Bytes.ofText "k=1", by decide +kernel, by decide +kernel⟩ .nil
  stopped := fun _ => rfl

theorem stores_of_received (body : String) {f : Fetcher} {url : Url} {env : Environment}
    (hbody : f.received? url env = some body)
    (h : (f.store env.files (f.target url) body).1 = .ok ()) : f.Stores url env := by
  intro other hother
  obtain rfl := Option.some.inj (hbody.symm.trans hother)
  exact h

theorem sameDownload_siteFiles : Site.SameDownload none (siteAt ⟨"r"⟩ "c" "p")
    (siteEnvironment (siteFiles "r" "p")) (siteAt ⟨"s"⟩ "d" "q")
    (siteEnvironment (siteFiles "s" "q")) (Fetcher.secureUrlOf "m") where
  remote := .inr rfl
  answer := rfl
  stores := stores_of_received indentManifest (by decide +kernel) (by decide +kernel)
  stores' := stores_of_received indentManifest (by decide +kernel) (by decide +kernel)
  preferences := by
    refine .cons (iff_of_false ?_ ?_) .nil
    · unfold Fetcher.IsDownload
      decide +kernel
    · unfold Fetcher.IsDownload
      decide +kernel

theorem same_at_both_sites_renamed :
    (∃ s t, stateAt pairConfiguration (siteAt ⟨"r"⟩ "c" "p") (siteFiles "r" "p") = .ok s ∧
      stateAt pairConfiguration (siteAt ⟨"s"⟩ "d" "q") (siteFiles "s" "q") = .ok t ∧ s.Same t) ∧
    ∃ s t, stateAt downloadConfiguration (siteAt ⟨"r"⟩ "c" "p") (siteFiles "r" "p") = .ok s ∧
      stateAt downloadConfiguration (siteAt ⟨"s"⟩ "d" "q") (siteFiles "s" "q") = .ok t ∧
      s.Same t := by
  have hstored : (stateAt downloadConfiguration (siteAt ⟨"r"⟩ "c" "p")
      (siteFiles "r" "p")).toBool = true := by decide +kernel
  have hderived := same_at_both_sites pairConfiguration none _ _ _ _ copied_siteFiles
    fun url hurl => (nomatch hurl)
  have hdownloaded := same_at_both_sites downloadConfiguration none _ _ _ _ copied_siteFiles
    fun url hurl => Option.some.inj hurl ▸ sameDownload_siteFiles
  exact ⟨(hderived.1 (.ofEngines .builtins)).1.exists_of_toBool stateAt_siteFiles,
    (hdownloaded.1 (.ofEngines .builtins)).1.exists_of_toBool hstored⟩

def longRoot : Path := Path.dotted ⟨"r"⟩ 2047

def downloadText : String := "c/" ++ Fetcher.fileName (Fetcher.secureUrlOf "m")

def filesWithDownload : FileTree :=
  ((siteFiles "r" "p").put ["c"] .directory).put ["c", Fetcher.fileName (Fetcher.secureUrlOf "m")]
    (.file (Bytes.ofText "k=1"))

theorem stateAt_longRoot :
    (stateAt pairConfiguration (siteAt longRoot "c" "p") (siteFiles "r" "p")).toBool = false := by
  have hlong : FileTree.pathLimit ≤ longRoot.text.utf8ByteSize := by
    rw [longRoot, Path.utf8ByteSize_dotted]
    decide
  have hcollects : Collects (siteAt longRoot "c" "p").repository (siteFiles "r" "p") [firstOfPair]
      .start _ :=
    .stop List.not_mem_nil (manifest_of_long hlong firstOfPair)
  rw [stateAt, resolve, artifacts_eq, locate_of_collects hcollects]
  rfl

/-- Sites can be told apart where the paths through one spelling of the same root are too long, and
where the preference file of one of them is the file that the module is downloaded to. -/
theorem sites_told_apart :
    ((siteFiles "r" "p").place ⟨"r"⟩ = .ok ["r"] ∧ (siteFiles "r" "p").place longRoot = .ok ["r"] ∧
      (stateAt pairConfiguration (siteAt ⟨"r"⟩ "c" "p") (siteFiles "r" "p")).toBool = true ∧
      (stateAt pairConfiguration (siteAt longRoot "c" "p") (siteFiles "r" "p")).toBool = false) ∧
    (((siteAt ⟨"r"⟩ "c" "p").fetcher none).Stores (Fetcher.secureUrlOf "m")
        (siteEnvironment filesWithDownload) ∧
      filesWithDownload.read ⟨"p"⟩ = filesWithDownload.read ⟨downloadText⟩ ∧
      (stateAt downloadConfiguration (siteAt ⟨"r"⟩ "c" "p") filesWithDownload).toBool = true ∧
      (stateAt downloadConfiguration (siteAt ⟨"r"⟩ "c" downloadText) filesWithDownload).toBool =
        false) := by
  have hroot : (siteFiles "r" "p").place ⟨"r"⟩ = .ok ["r"] := by decide +kernel
  have hlong : (siteFiles "r" "p").place longRoot = .ok ["r"] := by
    refine (FileTree.place_dotted rfl rfl hroot ?_).2
    rw [Path.utf8ByteSize_dotted]
    decide
  refine ⟨⟨hroot, hlong, stateAt_siteFiles, stateAt_longRoot⟩, ?_, ?_, ?_, ?_⟩
  · exact stores_of_received indentManifest (by decide +kernel) (by decide +kernel)
  · decide +kernel
  · decide +kernel
  · decide +kernel

end FormatterModules
