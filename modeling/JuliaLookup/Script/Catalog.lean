import JuliaLookup.Script.Template

/-!
# Julia programs

The programs that answer questions about Julia code, as templates. The slot of a program takes the
symbol path in question, and in `project` a string literal.
-/

namespace JuliaLookup.Catalog

open Piece

/-- How long a horizontal rule is. -/
def ruleWidth : Nat := 40

/-- How many lines are shown before and after a method. -/
def contextLines : Nat := 5

def rule : Piece := fixed (Text.ofNat ruleWidth)

def context : Piece := fixed (Text.ofNat contextLines)

/-- The signature of every method of an object, or else its type. -/
def signatures : Template := .lines [
  ["let obj = ", slot],
  ["    ms = obj isa Module ? [] : collect(methods(obj))"],
  ["    if isempty(ms)"],
  ["        println(\"Type signature: \", typeof(obj))"],
  ["    end"],
  ["    for m in ms"],
  ["        println(\"Type signature: \", m.sig)"],
  ["    end"],
  ["end"]]

/-- The documentation of an object. -/
def documentation : Template := .lines [
  ["println(@doc ", slot, ")"]]

/-- The documentation of an object, its methods, and its fields if it is a type. -/
def everything : Template := .lines [
  ["using InteractiveUtils"],
  [],
  ["println(@doc ", slot, ")"],
  ["println(\"\\n\", \"-\"^", rule, ", \"\\n\")"],
  ["let obj = ", slot],
  ["    ms = obj isa Module ? [] : collect(methods(obj))"],
  ["    if !isempty(ms)"],
  ["        println(\"Method signatures:\")"],
  ["        for m in ms"],
  ["            println(\" - \", m.sig)"],
  ["        end"],
  ["    end"],
  ["    if obj isa DataType"],
  ["        println(\"\\nFields:\")"],
  ["        for field in fieldnames(obj)"],
  ["            println(\" - \", field, \"::\", fieldtype(obj, field))"],
  ["        end"],
  ["    end"],
  ["end"]]

/-- The documentation of everything in a module, exported or not. -/
def unexported : Template := .lines [
  ["let m = ", slot],
  ["    for n in sort(filter(n -> !startswith(string(n), \"#\"), names(m; all=true)))"],
  ["        isdefined(m, n) || continue"],
  ["        println(\"\\n\", \"-\"^", rule, ", \"\\n\")"],
  ["        println(Base.Docs.doc(Base.Docs.Binding(m, n)))"],
  ["    end"],
  ["end"]]

/-- What a module holds, with the type of each thing: every name, or the exported ones only. -/
def members (all : Bool) : Template := .lines [
  ["let m = ", slot],
  ["    for n in sort(filter(n -> !startswith(string(n), \"#\"), names(m; ",
   "all=", fixed (if all then "true" else "false"), ")))"],
  ["        isdefined(m, n) || continue"],
  ["        println(typeof(getfield(m, n)), \" \", n)"],
  ["    end"],
  ["end"]]

/-- A Julia function that finds the last line of a method by counting the words that open and close
blocks. -/
def findMethodEnd : Template := .lines [
  ["function find_method_end(lines, start_line)"],
  ["    nesting_level = 0"],
  ["    for i in start_line:length(lines)"],
  ["        line = strip(lines[i])"],
  ["        isempty(line) && continue"],
  ["        if occursin(r\"^(function|if|for|while|let|try|begin|module|struct|mutable struct|",
   "macro|quote)\\b\", line)"],
  ["            nesting_level += 1"],
  ["        end"],
  ["        if occursin(r\"\\bdo\\b\", line)"],
  ["            nesting_level += 1"],
  ["        end"],
  ["        if endswith(line, \"end\")"],
  ["            nesting_level -= 1"],
  ["        end"],
  ["        nesting_level <= 0 && return i"],
  ["    end"],
  ["    return length(lines)"],
  ["end"],
  []]

/-- A Julia function that shows a method with the lines around it. -/
def showMethodInfo : Template := .lines [
  ["function show_method_info(m)"],
  ["    println(\"Type signature: \", m.sig)"],
  ["    println(\"-\"^", rule, ")"],
  ["    try"],
  ["        file, line = functionloc(m)"],
  ["        println(\"Source location: \", file, \":\", line)"],
  ["        println(\"-\"^", rule, ")"],
  ["        if isfile(file)"],
  ["            lines = split(read(file, String), \"\\n\")"],
  ["            first_line = max(1, line - ", context, ")"],
  ["            last_line = min(length(lines), find_method_end(lines, line) + ", context, ")"],
  ["            for i in first_line:last_line"],
  ["                marker = i == line ? \"➜ \" : \"  \""],
  ["                println(marker, i, \": \", lines[i])"],
  ["            end"],
  ["        else"],
  ["            println(\"Could not find source file\")"],
  ["        end"],
  ["    catch e"],
  ["        println(\"Error retrieving source: \", sprint(showerror, e))"],
  ["    end"],
  ["    println()"],
  ["end"],
  []]

/-- The source around every method of an object. -/
def source : Template :=
  .lines [["using InteractiveUtils"], []] ++ findMethodEnd ++ showMethodInfo ++ .lines [
  ["let ms = methods(", slot, ")"],
  ["    if isempty(ms)"],
  ["        println(\"No methods found for ", slot, "\")"],
  ["    else"],
  ["        println(\"Found \", length(ms), \" method(s):\")"],
  ["        println()"],
  ["        for (i, m) in enumerate(ms)"],
  ["            println(\"Method \", i, \":\")"],
  ["            show_method_info(m)"],
  ["        end"],
  ["    end"],
  ["end"]]

/-- The name, dependencies and version bounds of a project. -/
def project : Template := .lines [
  ["using TOML"],
  ["let project = TOML.parsefile(joinpath(", slot, ", \"Project.toml\"))"],
  ["    version = get(project, \"version\", nothing)"],
  ["    println(\"Project: \", get(project, \"name\", \"(unnamed)\"), version === nothing ? ",
   "\"\" : \" v$version\")"],
  ["    println(\"\\nDependencies:\")"],
  ["    for (dep, uuid) in sort(collect(get(project, \"deps\", Dict())); by=first)"],
  ["        println(\" - \", dep, \" = \", uuid)"],
  ["    end"],
  ["    compat = get(project, \"compat\", Dict())"],
  ["    if !isempty(compat)"],
  ["        println(\"\\nCompat:\")"],
  ["        for (dep, spec) in sort(collect(compat); by=first)"],
  ["            println(\" - \", dep, \" = \", spec)"],
  ["        end"],
  ["    end"],
  ["end"]]

/-- The environment of the Julia process. The text begins with an empty line. -/
def diagnostics : Template := .lines [
  [],
  ["using Pkg"],
  ["println(\"Julia version: \", VERSION)"],
  ["println(\"Active project: \", something(Base.active_project(), \"(none)\"))"],
  ["println(\"DEPOT_PATH: \", join(DEPOT_PATH, \", \"))"],
  ["println(\"LOAD_PATH: \", join(LOAD_PATH, \", \"))"],
  ["println(\"Installed packages:\")"],
  ["Pkg.status()"]]

end JuliaLookup.Catalog
