import Mathlib.Logic.Basic
import FluentBuilder.Proofs.CommandLine.Preview
import FluentBuilder.Proofs.CommandLine.Report

namespace FluentBuilder.CommandLine

variable {ρ σ : Type} {shows : LogFilter} {lines : List LogLine}

section Disk

variable [FileSystem (DiskM ρ σ)] {here : Surroundings} {arguments : List Text} {place : ρ} {disk : σ}

end Disk

end FluentBuilder.CommandLine
