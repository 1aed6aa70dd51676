import SpokenForm.Main
import SpokenForm.Proofs.Alignment.Correspondence
import SpokenForm.Proofs.Alignment.LongestCommon
import SpokenForm.Proofs.Alignment.Merging
import SpokenForm.Proofs.Batch.Outcome
import SpokenForm.Proofs.CommandLine.Records
import SpokenForm.Proofs.GrammarCache.KeyNames
import SpokenForm.Proofs.GrammarCache.LoadEffect
import SpokenForm.Proofs.GrammarCache.Rivals
import SpokenForm.Proofs.GrammarCache.Transparency
import SpokenForm.Proofs.Lattice
import SpokenForm.Proofs.Manifest.Lines
import SpokenForm.Proofs.Manifest.Replacing
import SpokenForm.Proofs.Normalizer.ChunkSearch
import SpokenForm.Proofs.Normalizer.ListedPhrase
import SpokenForm.Proofs.Normalizer.Options
import SpokenForm.Proofs.Normalizer.PostProcessing
import SpokenForm.Proofs.Normalizer.Reordering
import SpokenForm.Proofs.Punctuation.Detokenization
import SpokenForm.Proofs.Punctuation.Restoration
import SpokenForm.Proofs.Punctuation.Room
import SpokenForm.Proofs.Selection.Choice
import SpokenForm.Proofs.Selection.Preparation
import SpokenForm.Proofs.Token.CheckedNumbering
import SpokenForm.Proofs.Token.FaultLocation
import SpokenForm.Proofs.Token.FewestChunks
import SpokenForm.Proofs.Token.Layout
import SpokenForm.Proofs.Token.LexicographicOrder
import SpokenForm.Proofs.Token.ListedOrder
import SpokenForm.Proofs.Token.Rearrangement
import SpokenForm.Proofs.Transducer.Answer
import SpokenForm.Proofs.Whitelist.Combination
import SpokenForm.Proofs.Whitelist.Segmentation
import SpokenForm.Proofs.Whitelist.Tagging
